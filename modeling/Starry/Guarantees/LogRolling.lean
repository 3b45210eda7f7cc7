import Starry.Source.LogFileSpec

/-!
# Lines and files of a `LogFile`

`rollFile` opens a file only when the clock has moved since the last roll, and names it after
the second of its reading. Both have a gap.

The constructor reads the clock for `lastRoll_` and then calls `rollFile` to open the first file.
When the clock reads the same time again, no file is opened, and the lines appended are written
to a stream that is not open. `lines_kept_iff` says that nothing is lost otherwise, whatever the
clock does later.

A roll within the second of the roll before it opens the same file again, which then goes on
growing. `rolls_split_iff` is about the runs in which the clock never stands still: those in
which every roll comes in a later second than the last are those in which every roll opens a
new file and no file is given more than `rollSize_` bytes before its last record.
-/
namespace Starry.Guarantees.LogRolling

open Starry.Foundation
open Starry.Source
open Starry.Source.LogFile

variable {clock : Nat → Int64} {f g : LogFile} {logline : List UInt8} {lines : List (List UInt8)}

/-! ## No line is lost -/

/-- Every line was written to an open file, and the files hold the lines in order. -/
structure LinesKept (lines : List (List UInt8)) (f : LogFile) : Prop where
  written : f.unwritten = []
  stream : (f.openings.flatMap OpenFile.records).flatten = lines.flatten

/-- A file is open, and the files hold the records `lines`. -/
structure Holding (lines : List (List UInt8)) (f : LogFile) : Prop where
  opened : f.file ≠ none
  written : f.unwritten = []
  records : f.openings.flatMap OpenFile.records = lines

theorem Holding.write (holding : Holding lines f) (logline : List UInt8) :
    Holding (lines ++ [logline]) (f.write logline) := by
  obtain ⟨opened, written, records⟩ := holding
  cases file : f.file with
  | none => exact absurd file opened
  | some current =>
    simp only [LogFile.write, file]
    refine ⟨by simp, written, ?_⟩
    rw [← records]
    simp [openings, file]

theorem Holding.aside (holding : Holding lines f) (aside : Aside f g) : Holding lines g := by
  obtain ⟨opened, written, records⟩ := holding
  refine ⟨?_, ?_, ?_⟩
  · rw [aside.file]
    exact opened
  · rw [aside.unwritten]
    exact written
  · rw [aside.openings]
    exact records

/-- A roll closes one file and opens another, and takes no line away. -/
theorem Holding.rollFile (holding : Holding lines f) : Holding lines (f.rollFile clock).2 := by
  obtain ⟨opened, written, records⟩ := holding
  by_cases later : f.lastRoll.toInt < (f.now clock).toInt
  · rw [rollFile_of_later later]
    refine ⟨by simp, written, ?_⟩
    rw [← records]
    simp [openings]
  · rw [rollFile_of_still later]
    exact ⟨opened, written, records⟩

theorem Holding.append (holding : Holding lines f)
    (success : f.append_unlocked clock logline = .ok g) : Holding (lines ++ [logline]) g := by
  rcases append_ok success with ⟨h, aside, _, _, rfl⟩ | ⟨_, aside, _⟩
  · exact ((holding.write logline).aside aside).rollFile
  · exact (holding.write logline).aside aside

theorem unwritten_rollFile : (f.rollFile clock).2.unwritten = f.unwritten := by
  unfold LogFile.rollFile
  dsimp only
  split <;> rfl

/-- What was appended to no file stays lost. -/
theorem unwritten_append (success : f.append_unlocked clock logline = .ok g) :
    g.unwritten = (f.write logline).unwritten := by
  rcases append_ok success with ⟨h, aside, _, _, rfl⟩ | ⟨_, aside, _⟩
  · rw [unwritten_rollFile, aside.unwritten]
  · exact aside.unwritten

theorem lost_run (lost : f.unwritten ≠ []) (run : (machine clock).Run f lines g) :
    g.unwritten ≠ [] := by
  refine @Machine.Run.invariant _ _ _ (machine clock) (fun f => f.unwritten ≠ []) _ _ _ ?_ lost run
  intro f logline g lost _ stepped
  rw [unwritten_append stepped]
  unfold LogFile.write
  split
  · simp
  · exact lost

/-- The state after the constructor. -/
theorem new_ok {basename : String} {pid : Nat} {rollSize : UInt64} {flushInterval checkEveryN : Int}
    {existing : String → Nat}
    (constructed : LogFile.new clock basename pid rollSize flushInterval checkEveryN existing =
      .ok f) :
    f.unwritten = [] ∧ f.reads = 3 ∧ f.closed = [] ∧
    (((clock 0).toInt < (clock 2).toInt ∧ f.lastRoll = clock 2 ∧
        f.file = some ⟨f.getLogFileName (clock 2), []⟩) ∨
      (¬(clock 0).toInt < (clock 2).toInt ∧ f.file = none)) := by
  obtain ⟨_, _, success⟩ := bind_eq_ok constructed
  cases success
  by_cases later : (clock 0).toInt < (clock 2).toInt
  · rw [rollFile_of_later (by exact later)]
    exact ⟨rfl, rfl, rfl, .inl ⟨later, rfl, rfl⟩⟩
  · rw [rollFile_of_still (by exact later)]
    exact ⟨rfl, rfl, rfl, .inr ⟨later, rfl⟩⟩

/-- The lines are kept exactly when the constructor's `rollFile` finds a later time than the one
`lastRoll_` was set to, or when nothing is appended. -/
theorem lines_kept_iff {basename : String} {pid : Nat} {rollSize : UInt64}
    {flushInterval checkEveryN : Int} {existing : String → Nat}
    (constructed : LogFile.new clock basename pid rollSize flushInterval checkEveryN existing =
      .ok f)
    (run : (machine clock).Run f lines g) :
    LinesKept lines g ↔ (clock 0).toInt < (clock 2).toInt ∨ lines = [] := by
  obtain ⟨written, _, none, opened⟩ := new_ok constructed
  rcases opened with ⟨later, _, file⟩ | ⟨still, closed⟩
  · refine ⟨fun _ => .inl later, fun _ => ?_⟩
    have holding : Holding [] f := ⟨by simp [file], written, by simp [openings, none, file]⟩
    have final : Holding ([] ++ lines) g :=
      @Machine.Run.history _ _ _ (machine clock) Holding _ _ _ _
        (fun _ _ _ _ holding _ stepped => holding.append stepped) holding run
    exact ⟨final.written, by rw [final.records]; rfl⟩
  · cases run with
    | done => exact ⟨fun _ => .inr rfl, fun _ => ⟨written, by simp [openings, none, closed]⟩⟩
    | @next _ t _ first rest _ stepped later =>
      -- the first line is lost at once
      have lost : t.unwritten ≠ [] := by
        rw [unwritten_append stepped]
        simp [LogFile.write, closed]
      have gone := lost_run lost later
      refine ⟨fun kept => absurd kept.written gone, ?_⟩
      rintro (moved | empty)
      · exact absurd moved still
      · cases empty

/-- A clock that moves by a nanosecond with every reading. -/
def nanosecondClock (n : Nat) : Int64 := Int64.ofNat n

/-- Two lines, of which the first makes the file too long. -/
theorem lines_kept_iff_two_lines : ∃ f g,
    LogFile.new nanosecondClock "app" 1 1 3 1024 (fun _ => 0) = .ok f ∧
    (machine nanosecondClock).Run f [[1, 2], [3]] g ∧ LinesKept [[1, 2], [3]] g := by
  obtain ⟨f, constructed⟩ : ∃ f,
      LogFile.new nanosecondClock "app" 1 1 3 1024 (fun _ => 0) = .ok f := ⟨_, rfl⟩
  obtain ⟨g, run, _⟩ := (machine nanosecondClock).exists_run_of_exec f [[1, 2], [3]] (fun _ => true) (by
    cases constructed
    decide +kernel)
  exact ⟨f, g, constructed, run, (lines_kept_iff constructed run).mpr (.inl (by decide))⟩

/-- A clock that stands still while the constructor runs: the line goes nowhere. -/
theorem line_lost_on_equal_readings : ∃ f g,
    LogFile.new (fun _ => 0) "app" 1 1000 3 1024 (fun _ => 0) = .ok f ∧
    (machine fun _ => 0).Run f [[1]] g ∧ g.unwritten = [[1]] ∧ g.openings = [] ∧
    ¬LinesKept [[1]] g := by
  obtain ⟨f, constructed⟩ : ∃ f, LogFile.new (fun _ => 0) "app" 1 1000 3 1024 (fun _ => 0) = .ok f :=
    ⟨_, rfl⟩
  obtain ⟨g, run, holds⟩ := (machine fun _ => 0).exists_run_of_exec f [[1]]
    (fun g => decide (g.unwritten = [[1]] ∧ g.openings = [])) (by
      cases constructed
      decide +kernel)
  obtain ⟨lost, nowhere⟩ := of_decide_eq_true holds
  refine ⟨f, g, constructed, run, lost, nowhere, fun kept => ?_⟩
  rw [kept.written] at lost
  cases lost

/-! ## Every roll opens a new file -/

/-- Each of the first `reads` readings is later than those before it. -/
def Increasing (clock : Nat → Int64) (reads : Nat) : Prop :=
  ∀ m < reads, ∀ n < m, (clock n).toInt < (clock m).toInt

/-- Without its last record, a file was given at most `rollSize_` bytes. -/
def Bounded (f : LogFile) : Prop :=
  ∀ name, (f.recordsOf name).dropLast.flatten.length ≤ f.rollSize.toNat

/-- A roll in this step opened a file of a new name, and the files keep to their bound. -/
structure Splits (f : LogFile) (_ : List UInt8) (g : LogFile) : Prop where
  fresh : ∀ opened, f.openings.length < g.openings.length → g.file = some opened →
    opened.name ∉ f.openings.map OpenFile.name
  bounded : Bounded g

/-- A roll in this step comes in a later second than the last one. -/
def Spaced (clock : Nat → Int64) (f : LogFile) (logline : List UInt8) : Prop :=
  ∀ now, rollReading clock f logline = some now → seconds f.lastRoll < seconds now

instance (f : LogFile) (logline : List UInt8) : Decidable (Spaced clock f logline) :=
  match found : rollReading clock f logline with
  | none => isTrue (by simp [Spaced, found])
  | some now => decidable_of_iff (seconds f.lastRoll < seconds now) (by simp [Spaced, found])

/-- The files so far are of different seconds, and none is too long but for its last record. -/
structure Filled (clock : Nat → Int64) (f : LogFile) : Prop where
  current : ∃ opened, f.file = some opened ∧ opened.name = f.getLogFileName f.lastRoll
  taken : ∃ n < f.reads, f.lastRoll = clock n
  earlier : ∀ opening ∈ f.closed, ∃ now, opening.name = f.getLogFileName now ∧
    seconds now < seconds f.lastRoll
  distinct : (f.openings.map OpenFile.name).Nodup
  filled : ∀ opening ∈ f.openings, opening.records.dropLast.flatten.length ≤ f.rollSize.toNat

/-- The open file has room for another record. -/
def Room (f : LogFile) : Prop :=
  ∀ opened, f.file = some opened → opened.records.flatten.length ≤ f.rollSize.toNat

theorem filter_name {openings : List OpenFile} {opening : OpenFile}
    (distinct : (openings.map OpenFile.name).Nodup) (member : opening ∈ openings) :
    (openings.filter fun other => other.name == opening.name) = [opening] := by
  induction openings with
  | nil => cases member
  | cons first rest ih =>
    rw [List.map_cons, List.nodup_cons] at distinct
    rcases List.mem_cons.mp member with rfl | later
    · have none : (rest.filter fun other => other.name == opening.name) = [] := by
        rw [List.filter_eq_nil_iff]
        intro other inside same
        exact distinct.1 (List.mem_map.mpr ⟨other, inside, by simpa using same⟩)
      rw [List.filter_cons_of_pos (by simp), none]
    · have other : ¬(first.name == opening.name) = true := by
        intro same
        have named : first.name = opening.name := by simpa using same
        exact distinct.1 (named ▸ List.mem_map_of_mem later)
      rw [List.filter_cons, if_neg other]
      exact ih distinct.2 later

/-- Under different names, a file was given what it was given in its one opening. -/
theorem recordsOf_eq {opening : OpenFile} (distinct : (f.openings.map OpenFile.name).Nodup)
    (member : opening ∈ f.openings) : f.recordsOf opening.name = opening.records := by
  rw [recordsOf, filter_name distinct member]
  simp

theorem Filled.bounded (filled : Filled clock f) : Bounded f := by
  intro name
  by_cases used : name ∈ f.openings.map OpenFile.name
  · obtain ⟨opening, member, rfl⟩ := List.mem_map.mp used
    rw [recordsOf_eq filled.distinct member]
    exact filled.filled opening member
  · have none : (f.openings.filter fun opening => opening.name == name) = [] := by
      rw [List.filter_eq_nil_iff]
      intro opening inside same
      exact used (List.mem_map.mpr ⟨opening, inside, by simpa using same⟩)
    rw [recordsOf, none]
    simp

theorem mem_openings_of_file {opened : OpenFile} (file : f.file = some opened) :
    opened ∈ f.openings := by
  simp [openings, file]

/-- A file that is not beyond the roll position has room. -/
theorem Filled.room (filled : Filled clock f) (short : f.tellp ≤ f.rollPosition) : Room f := by
  intro opened file
  simp only [tellp, file, recordsOf_eq filled.distinct (mem_openings_of_file file)] at short
  have position : f.rollPosition ≤ f.rollSize.toNat := by
    simp only [rollPosition, BigEndian.toSigned, Int.bmod]
    split <;> omega
  omega

/-! ### Steps -/

theorem Filled.write (filled : Filled clock f) (room : Room f) (logline : List UInt8) :
    Filled clock (f.write logline) ∧ (f.write logline).openings.map OpenFile.name =
      f.openings.map OpenFile.name := by
  obtain ⟨⟨opened, file, name⟩, taken, earlier, distinct, fill⟩ := filled
  have names : (f.write logline).openings.map OpenFile.name = f.openings.map OpenFile.name := by
    simp [LogFile.write, openings, file]
  refine ⟨⟨?_, ?_, ?_, ?_, ?_⟩, names⟩
  · simp only [LogFile.write, file]
    exact ⟨_, rfl, name⟩
  · simpa only [LogFile.write, file] using taken
  · simp only [LogFile.write, file]
    exact earlier
  · rw [names]
    exact distinct
  · intro opening member
    simp only [LogFile.write, file, openings, Option.toList_some, List.mem_append,
      List.mem_singleton] at member ⊢
    rcases member with old | rfl
    · exact fill opening (by simp [openings, old])
    · simpa using room opened file

theorem Filled.aside (filled : Filled clock f) (aside : Aside f g) (later : f.reads ≤ g.reads) :
    Filled clock g := by
  obtain ⟨current, ⟨n, read, reading⟩, earlier, distinct, fill⟩ := filled
  refine ⟨?_, ?_, ?_, ?_, ?_⟩
  · simpa only [aside.file, aside.lastRoll, aside.getLogFileName] using current
  · exact ⟨n, by omega, by rw [aside.lastRoll, reading]⟩
  · simpa only [aside.closed, aside.lastRoll, aside.getLogFileName] using earlier
  · rw [aside.openings]
    exact distinct
  · rw [aside.openings, aside.rollSize]
    exact fill

theorem Room.aside (room : Room f) (aside : Aside f g) : Room g := by
  unfold Room
  rw [aside.file, aside.rollSize]
  exact room

/-- A name of a later second is none of those used so far. -/
theorem Filled.fresh_name (filled : Filled clock f) {now : Int64}
    (later : seconds f.lastRoll < seconds now) :
    f.getLogFileName now ∉ f.openings.map OpenFile.name := by
  obtain ⟨⟨opened, file, name⟩, _, earlier, _, _⟩ := filled
  intro used
  obtain ⟨opening, member, same⟩ := List.mem_map.mp used
  rcases List.mem_append.mp member with old | new
  · obtain ⟨then', named, before⟩ := earlier opening old
    have equal := getLogFileName_inj.mp (named.symm.trans same)
    omega
  · rw [file, Option.toList_some, List.mem_singleton] at new
    subst new
    have equal := getLogFileName_inj.mp (name.symm.trans same)
    omega

/-- The clock has moved since the last roll. -/
theorem Filled.moved (filled : Filled clock f) {n : Nat} (later : f.reads ≤ n)
    (increasing : Increasing clock (n + 1)) : f.lastRoll.toInt < (clock n).toInt := by
  obtain ⟨m, read, reading⟩ := filled.taken
  rw [reading]
  exact increasing n (by omega) m (by omega)

theorem Filled.roll (filled : Filled clock f) (increasing : Increasing clock (f.reads + 1))
    (later : seconds f.lastRoll < seconds (f.now clock)) :
    Filled clock (f.rollFile clock).2 ∧ Room (f.rollFile clock).2 := by
  have fresh := filled.fresh_name later
  rw [rollFile_of_later (filled.moved le_rfl increasing)]
  obtain ⟨⟨opened, file, name⟩, _, earlier, distinct, fill⟩ := filled
  refine ⟨⟨⟨_, rfl, rfl⟩, ?_, ?_, ?_, ?_⟩, ?_⟩
  · exact ⟨f.reads, Nat.lt_succ_self f.reads, rfl⟩
  · intro opening member
    rcases List.mem_append.mp member with old | new
    · obtain ⟨then', named, before⟩ := earlier opening old
      exact ⟨then', named, by dsimp only; omega⟩
    · rw [file, Option.toList_some, List.mem_singleton] at new
      exact ⟨f.lastRoll, new ▸ name, later⟩
  · simp only [openings, Option.toList_some, List.map_append, List.map_cons, List.map_nil]
    have names : f.closed.map OpenFile.name ++ f.file.toList.map OpenFile.name =
        f.openings.map OpenFile.name := (List.map_append).symm
    rw [names]
    refine distinct.append (List.nodup_singleton _) ?_
    rw [List.disjoint_singleton]
    exact fresh
  · intro opening member
    rcases List.mem_append.mp member with old | new
    · exact fill opening old
    · rw [Option.toList_some, List.mem_singleton] at new
      rw [new]
      exact Nat.zero_le _
  · intro opened same
    cases same
    exact Nat.zero_le _

structure Inv (clock : Nat → Int64) (f : LogFile) : Prop extends Filled clock f where
  room : Room f

/-- `append` keeps the files apart if the rolls are far enough from one another. -/
theorem Inv.append (inv : Inv clock f) (increasing : Increasing clock g.reads)
    (spaced : Spaced clock f logline) (success : f.append_unlocked clock logline = .ok g) :
    Inv clock g := by
  have written := (inv.toFilled.write inv.room logline).1
  obtain ⟨_, _, reads, lastRoll, _⟩ := write_settings f logline
  rcases append_ok success with ⟨h, aside, later, reading, rfl⟩ | ⟨_, aside, later, short⟩
  · have ready := written.aside aside (by omega)
    have second := spaced (h.now clock) reading
    rw [← lastRoll, ← aside.lastRoll] at second
    rw [reads_rollFile] at increasing
    exact ⟨(ready.roll increasing second).1, (ready.roll increasing second).2⟩
  · exact ⟨written.aside aside (by omega), (written.room short).aside aside⟩

/-- A roll leaves one opening more, of the name of its reading. -/
theorem Inv.opened_by_roll (inv : Inv clock f) {h : LogFile} (aside : Aside (f.write logline) h)
    (later : f.reads ≤ h.reads) (increasing : Increasing clock (h.reads + 1)) :
    (h.rollFile clock).2.file = some ⟨f.getLogFileName (h.now clock), []⟩ ∧
      f.openings.length < (h.rollFile clock).2.openings.length := by
  obtain ⟨written, names⟩ := inv.toFilled.write inv.room logline
  obtain ⟨_, _, reads, _, _, basename, pid, _⟩ := write_settings f logline
  have ready := written.aside aside (by omega)
  have count := congrArg List.length names
  rw [List.length_map, List.length_map, ← aside.openings] at count
  rw [rollFile_of_later (ready.moved le_rfl increasing)]
  refine ⟨?_, ?_⟩
  · simp only [getLogFileName, aside.basename, aside.pid, basename, pid]
  · simp only [openings, Option.toList_some, List.length_append, List.length_singleton] at count ⊢
    omega

/-- A step rolls in a later second exactly when its roll opens a new file. -/
theorem spaced_iff_splits (inv : Inv clock f) (increasing : Increasing clock g.reads)
    (success : f.append_unlocked clock logline = .ok g) :
    Spaced clock f logline ↔ Splits f logline g := by
  constructor
  · intro spaced
    refine ⟨?_, (inv.append increasing spaced success).toFilled.bounded⟩
    intro opened longer file
    rcases append_ok success with ⟨h, aside, later, reading, rfl⟩ | ⟨_, aside, _⟩
    · rw [reads_rollFile] at increasing
      rw [(inv.opened_by_roll aside later increasing).1] at file
      cases file
      exact inv.toFilled.fresh_name (spaced _ reading)
    · have count := congrArg List.length (inv.toFilled.write inv.room logline).2
      rw [List.length_map, List.length_map, ← aside.openings] at count
      omega
  · intro splits now reading
    rcases append_ok success with ⟨h, aside, later, reading', rfl⟩ | ⟨unread, _⟩
    · rw [reading'] at reading
      cases reading
      rw [reads_rollFile] at increasing
      obtain ⟨file, longer⟩ := inv.opened_by_roll aside later increasing
      have fresh := splits.fresh _ longer file
      obtain ⟨opened, current, name⟩ := inv.current
      have order := seconds_mono (le_of_lt (inv.toFilled.moved later increasing))
      -- in the same second the name would be the one of the open file
      rcases lt_or_eq_of_le order with before | same
      · exact before
      · refine absurd (List.mem_map.mpr ⟨opened, mem_openings_of_file current, ?_⟩) fresh
        rw [name]
        exact getLogFileName_inj.mpr same
    · rw [unread] at reading
      cases reading

/-! ### Every run -/

theorem new_inv {basename : String} {pid : Nat} {rollSize : UInt64}
    {flushInterval checkEveryN : Int} {existing : String → Nat}
    (increasing : Increasing clock f.reads)
    (constructed : LogFile.new clock basename pid rollSize flushInterval checkEveryN existing =
      .ok f) : Inv clock f := by
  obtain ⟨_, reads, closed, opened⟩ := new_ok constructed
  rcases opened with ⟨_, lastRoll, file⟩ | ⟨still, _⟩
  · have single : f.openings = [⟨f.getLogFileName (clock 2), []⟩] := by
      simp [openings, closed, file]
    refine ⟨⟨⟨_, file, by rw [lastRoll]⟩, ?_, by simp [closed], by simp [single], by simp [single]⟩, ?_⟩
    · exact ⟨2, by omega, lastRoll⟩
    · intro opened same
      rw [file] at same
      cases same
      exact Nat.zero_le _
  · exact absurd (increasing 2 (by omega) 0 (by omega)) still

/-- An append takes no reading back. -/
theorem reads_append (success : f.append_unlocked clock logline = .ok g) : f.reads ≤ g.reads := by
  rcases append_ok success with ⟨h, _, later, _, rfl⟩ | ⟨_, _, later, _⟩
  · rw [reads_rollFile]
    omega
  · exact later

theorem Increasing.mono {first last : Nat} (order : first ≤ last) (increasing : Increasing clock last) :
    Increasing clock first :=
  fun m read n => increasing m (by omega) n

/-- Over readings that all move on: the runs whose rolls come in later and later seconds
are those whose rolls all open new files and whose files keep to their bound. -/
theorem rolls_split_iff {basename : String} {pid : Nat} {rollSize : UInt64}
    {flushInterval checkEveryN : Int} {existing : String → Nat}
    (constructed : LogFile.new clock basename pid rollSize flushInterval checkEveryN existing =
      .ok f) (increasing : Increasing clock g.reads) :
    ((machine clock).restrict (Spaced clock)).Run f lines g ↔
      ((machine clock).ensuring Splits).Run f lines g := by
  refine @Machine.restrict_iff_ensuring_within _ _ _ (machine clock) _ _ (Inv clock)
    (fun f => Increasing clock f.reads) _ _ _ ?_ ?_ ?_ increasing
    (fun increasing => new_inv increasing constructed)
  · intro f logline g _ stepped increasing
    exact increasing.mono (reads_append stepped)
  · intro f logline g inv increasing _ stepped
    exact spaced_iff_splits inv increasing stepped
  · intro f logline g inv increasing _ spaced stepped
    exact inv.append increasing spaced stepped

/-- A clock that moves by a second with every reading. -/
def secondClock (n : Nat) : Int64 := Int64.ofNat (n * 1000000000)

/-- Two records of two bytes, with a bound of one byte, a second apart. -/
theorem rolls_split_iff_second_apart : ∃ f g,
    LogFile.new secondClock "app" 1 1 3 1024 (fun _ => 0) = .ok f ∧
    Increasing secondClock g.reads ∧ g.openings.length = 3 ∧
    ((machine secondClock).ensuring Splits).Run f [[1, 2], [3, 4]] g := by
  obtain ⟨f, constructed⟩ : ∃ f,
      LogFile.new secondClock "app" 1 1 3 1024 (fun _ => 0) = .ok f := ⟨_, rfl⟩
  obtain ⟨g, run, holds⟩ := ((machine secondClock).restrict (Spaced secondClock)).exists_run_of_exec f
    [[1, 2], [3, 4]] (fun g => decide (g.reads = 5 ∧ g.openings.length = 3)) (by
      cases constructed
      decide +kernel)
  obtain ⟨reads, three⟩ := of_decide_eq_true holds
  have increasing : Increasing secondClock g.reads := by
    rw [reads]
    unfold Increasing
    decide
  exact ⟨f, g, constructed, increasing, three, (rolls_split_iff constructed increasing).mp run⟩

/-- Two records a nanosecond apart: the second roll opens the same file again, which is then
given four bytes although its bound is one. -/
theorem file_reopened_within_second : ∃ f g,
    LogFile.new nanosecondClock "app" 1 1 3 1024 (fun _ => 0) = .ok f ∧
    Increasing nanosecondClock g.reads ∧ (machine nanosecondClock).Run f [[1, 2], [3, 4]] g ∧
    g.recordsOf "app.19700101-000000.1.log" = [[1, 2], [3, 4]] ∧
    ¬((machine nanosecondClock).ensuring Splits).Run f [[1, 2], [3, 4]] g := by
  obtain ⟨f, constructed⟩ : ∃ f,
      LogFile.new nanosecondClock "app" 1 1 3 1024 (fun _ => 0) = .ok f := ⟨_, rfl⟩
  obtain ⟨g, run, holds⟩ := (machine nanosecondClock).exists_run_of_exec f [[1, 2], [3, 4]]
    (fun g => decide (g.reads = 5 ∧ g.rollSize.toNat = 1 ∧
      g.recordsOf "app.19700101-000000.1.log" = [[1, 2], [3, 4]])) (by
      cases constructed
      decide +kernel)
  obtain ⟨reads, bound, records⟩ := of_decide_eq_true holds
  have increasing : Increasing nanosecondClock g.reads := by
    rw [reads]
    unfold Increasing
    decide
  refine ⟨f, g, constructed, increasing, run, records, fun splits => ?_⟩
  have start : Bounded f := by
    have first : f.reads = 3 := (new_ok constructed).2.1
    exact (new_inv (increasing.mono (by omega)) constructed).toFilled.bounded
  have bounded : Bounded g := by
    refine @Machine.Run.invariant _ _ _ ((machine nanosecondClock).ensuring Splits) Bounded _ _ _ ?_
      start splits
    intro f logline g _ allowed stepped
    exact (allowed.2 g stepped).bounded
  have short := bounded "app.19700101-000000.1.log"
  rw [records, bound] at short
  contradiction

end Starry.Guarantees.LogRolling
