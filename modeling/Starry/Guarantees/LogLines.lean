import Starry.Source.AsyncLogging

/-!
# Lines of the asynchronous logger

Over every interleaving of producers and backend, the strings given to `LogFile`, then the
rest of the batch, `buffers_` and `currentBuffer_`, hold the appended lines in lock order,
each line whole in one of them. No step uses a null pointer or the back of an empty batch:
whenever `nextBuffer_` is null, `buffers_` is not empty, so a batch that leaves both spare
buffers to refill has two buffers to refill them from.

`stop` does not wait for the lines that are still in the front end when the backend is past
its swap: `threadFunc` leaves its loop without another one. `nothing_lost` is about the runs
in which `stop` comes at another moment, and `line_lost_on_stop` is a run that loses a line.
-/
namespace Starry.Guarantees.LogLines

open Starry.Foundation
open Starry.Source
open Starry.Source.AsyncLogging

def contents : BufferPtr → List UInt8
  | some buffer => buffer.data
  | none => []

theorem contents_some (buffer : LogStream kLargeBuffer) : contents (some buffer) = buffer.data := rfl

/-- The buffers of the batch that have not been written yet. -/
def unwritten (l : AsyncLogging) : List BufferPtr :=
  match l.backend with
  | .writing position => l.buffersToWrite.drop position
  | _ => l.buffersToWrite

theorem unwritten_idle {l : AsyncLogging} (idle : ∀ position, l.backend ≠ .writing position) :
    unwritten l = l.buffersToWrite := by
  unfold unwritten
  split
  next position writing => exact absurd writing (idle position)
  next => rfl

/-- `buffers_` and then `currentBuffer_`. -/
def frontEnd (l : AsyncLogging) : List BufferPtr := l.buffers ++ [l.currentBuffer]

/-- The strings given to `LogFile`, then the batch, `buffers_` and `currentBuffer_`. -/
def chain (l : AsyncLogging) : List (List UInt8) :=
  l.written ++ (unwritten l).map contents ++ (frontEnd l).map contents

/-- The lines are laid out over the pieces in order, none of them split. -/
def Whole (pieces lines : List (List UInt8)) : Prop :=
  ∃ groups : List (List (List UInt8)), groups.flatten = lines ∧ groups.map List.flatten = pieces

/-- No line is longer than a buffer and no swapped batch holds more than 25 buffers. -/
def Fits (l : AsyncLogging) : Act → Prop
  | .append logline => logline.length ≤ kLargeBuffer
  | .lock | .wake => l.buffers.length + 1 ≤ 25
  | _ => True

structure LinesKept (M : Machine AsyncLogging Act Abort) (l : AsyncLogging) : Prop where
  stream : (chain l).flatten = l.lines.flatten
  unsplit : Whole (chain l) l.lines
  cleared : ∀ spare ∈ [l.nextBuffer, l.newBuffer1, l.newBuffer2], contents spare = []
  defined : ∀ a, M.enabled l a → ∃ l', M.step l a = .ok l'

/-! ## Lines in pieces -/

variable {pieces lines : List (List UInt8)}

theorem Whole.flatten (whole : Whole pieces lines) : pieces.flatten = lines.flatten := by
  obtain ⟨groups, rfl, rfl⟩ := whole
  exact (List.flatten_flatten (L := groups)).symm

/-- A line of its own piece. -/
theorem Whole.snoc (whole : Whole pieces lines) (line : List UInt8) :
    Whole (pieces ++ [line]) (lines ++ [line]) := by
  obtain ⟨groups, rfl, rfl⟩ := whole
  exact ⟨groups ++ [[line]], by simp, by simp⟩

theorem Whole.snoc_nil (whole : Whole pieces lines) : Whole (pieces ++ [[]]) lines := by
  obtain ⟨groups, rfl, rfl⟩ := whole
  exact ⟨groups ++ [[]], by simp, by simp⟩

/-- A line behind those of the last piece. -/
theorem Whole.extend {last : List UInt8} (whole : Whole (pieces ++ [last]) lines)
    (line : List UInt8) : Whole (pieces ++ [last ++ line]) (lines ++ [line]) := by
  obtain ⟨groups, rfl, split⟩ := whole
  obtain ⟨front, back, rfl, front_eq, back_eq⟩ := List.map_eq_append_iff.mp split
  obtain ⟨group, rest, rfl, rfl, rest_eq⟩ := List.map_eq_cons_iff.mp back_eq
  rw [List.map_eq_nil_iff] at rest_eq
  subst rest_eq front_eq
  exact ⟨front ++ [group ++ [line]], by simp, by simp⟩

/-- The lines of the pieces in front. -/
theorem Whole.front {back : List (List UInt8)} (whole : Whole (pieces ++ back) lines) :
    ∃ fewer, fewer <+: lines ∧ Whole pieces fewer := by
  obtain ⟨groups, rfl, split⟩ := whole
  obtain ⟨front, rest, rfl, front_eq, _⟩ := List.map_eq_append_iff.mp split
  refine ⟨front.flatten, ?_, front, rfl, front_eq⟩
  rw [List.flatten_append]
  exact List.prefix_append _ _

/-- Pieces put together hold whole lines too. -/
theorem Whole.join {files : List (List (List UInt8))} (whole : Whole files.flatten lines) :
    Whole (files.map List.flatten) lines := by
  induction files generalizing lines with
  | nil => exact whole
  | cons file later ih =>
    obtain ⟨groups, rfl, split⟩ := whole
    rw [List.flatten_cons] at split
    obtain ⟨front, rest, rfl, front_eq, rest_eq⟩ := List.map_eq_append_iff.mp split
    obtain ⟨regrouped, lines_eq, files_eq⟩ := ih ⟨rest, rfl, rest_eq⟩
    refine ⟨front.flatten :: regrouped, ?_, ?_⟩
    · rw [List.flatten_cons, lines_eq, List.flatten_append]
    · rw [List.map_cons, List.map_cons, files_eq, ← front_eq, List.flatten_flatten]

/-! ## The invariant -/

/-- After the critical section: a null `newBuffer2` comes with a second buffer. -/
structure Swapped (newBuffer1 newBuffer2 : BufferPtr) (batch : List BufferPtr) : Prop where
  taken : newBuffer1 = none
  nonempty : batch ≠ []
  refills : newBuffer2 = none → 2 ≤ batch.length
  small : batch.length ≤ 25

def StageInv (stage : BackendStage) (newBuffer1 newBuffer2 : BufferPtr)
    (batch : List BufferPtr) : Prop :=
  match stage with
  | .absent | .entering | .exited => batch = []
  | .testing | .locking | .waiting => newBuffer1 ≠ none ∧ newBuffer2 ≠ none ∧ batch = []
  | .swapped | .writing _ => Swapped newBuffer1 newBuffer2 batch

structure Kept (l : AsyncLogging) : Prop where
  whole : Whole (chain l) l.lines
  cleared : ∀ spare ∈ [l.nextBuffer, l.newBuffer1, l.newBuffer2], contents spare = []
  nonnull : ∀ pointer ∈ l.buffersToWrite ++ frontEnd l, pointer ≠ none
  spare : l.nextBuffer = none → l.buffers ≠ []
  stage : StageInv l.backend l.newBuffer1 l.newBuffer2 l.buffersToWrite

variable {l l' : AsyncLogging}

theorem deref_yields {pointer : BufferPtr} (nonnull : pointer ≠ none) (line : Nat) :
    Yields (deref pointer line) fun buffer => pointer = some buffer := by
  cases pointer with
  | none => exact absurd rfl nonnull
  | some buffer => exact .ok rfl

theorem append_contents {b : LogStream kLargeBuffer} {line : List UInt8}
    (room : line.length ≤ b.avail) : contents (some (b.append line)) = b.data ++ line := by
  simp only [contents, LogStream.append]
  rw [List.take_of_length_le room]

theorem new_kept : Kept AsyncLogging.new := by
  refine ⟨⟨[[]], rfl, rfl⟩, ?_, ?_, ?_, rfl⟩
  · simp [AsyncLogging.new, contents, LogStream.new]
  · simp [AsyncLogging.new, frontEnd]
  · simp [AsyncLogging.new]

/-! ## Steps -/

theorem Kept.current (kept : Kept l) : ∃ current, l.currentBuffer = some current :=
  Option.ne_none_iff_exists'.mp (kept.nonnull _ (by simp [frontEnd]))

/-- The stream, from what has been written to the line that was appended last. -/
theorem chain_front (l : AsyncLogging) :
    chain l = l.written ++ (unwritten l).map contents ++ l.buffers.map contents ++
      [contents l.currentBuffer] := by
  simp [chain, frontEnd]

/-- `append` follows no null pointer and puts the line at the end of the stream. -/
theorem append_yields (kept : Kept l) {logline : List UInt8}
    (short : logline.length ≤ kLargeBuffer) : Yields (l.append logline) Kept := by
  obtain ⟨current, here⟩ := kept.current
  have whole := kept.whole
  rw [chain_front, here] at whole
  unfold AsyncLogging.append
  rw [here]
  simp only [deref, ok_bind]
  split
  next room =>
    refine .ok ⟨?_, kept.cleared, ?_, kept.spare, kept.stage⟩
    · have longer := whole.extend logline
      rw [chain_front, append_contents (Nat.le_of_lt room)]
      exact longer
    · intro pointer member
      by_cases new : pointer = some (current.append logline)
      · simp [new]
      · refine kept.nonnull pointer ?_
        simp only [frontEnd, List.mem_append, List.mem_singleton] at member ⊢
        tauto
  next =>
    have fresh : contents (some ((l.nextBuffer.getD .new).append logline)) = logline := by
      have empty : (l.nextBuffer.getD .new).data = [] := by
        have cleared := kept.cleared l.nextBuffer (by simp)
        cases next : l.nextBuffer with
        | none => rfl
        | some buffer => simpa [next, contents] using cleared
      rw [append_contents (by simpa [LogStream.avail, empty] using short), empty]
      rfl
    refine .ok ⟨?_, ?_, ?_, by simp, kept.stage⟩
    · have longer := whole.snoc logline
      rw [← fresh] at longer
      rw [chain_front]
      simpa [fresh, unwritten] using longer
    · intro spare member
      have old := kept.cleared spare
      simp only [List.mem_cons] at member old
      rcases member with rfl | member
      · rfl
      · exact old (.inr member)
    · intro pointer member
      have old := kept.nonnull pointer
      simp only [frontEnd, List.mem_append, List.mem_singleton, here] at member old
      rcases member with before | (queued | rfl) | rfl
      · exact old (.inl before)
      · exact old (.inr (.inl queued))
      · simp
      · simp

/-- The swap moves buffers within the stream, and both new ones are there for the front end. -/
theorem swap_kept (kept : Kept l) (small : l.buffers.length + 1 ≤ 25)
    (ready : l.newBuffer1 ≠ none ∧ l.newBuffer2 ≠ none ∧ l.buffersToWrite = [])
    (idle : ∀ position, l.backend ≠ .writing position) : Kept l.swap := by
  obtain ⟨first, second, nothing⟩ := ready
  have empty := kept.cleared l.newBuffer1 (by simp)
  have before : unwritten l = [] := (unwritten_idle idle).trans nothing
  refine ⟨?_, ?_, ?_, ?_, ?_⟩
  · have longer := kept.whole.snoc_nil
    rw [chain, before] at longer
    simpa [chain, AsyncLogging.swap, unwritten, frontEnd, nothing, empty] using longer
  · have old := kept.cleared
    simp only [AsyncLogging.swap, List.mem_cons, List.not_mem_nil, or_false, forall_eq_or_imp,
      forall_eq] at old ⊢
    refine ⟨?_, rfl, ?_⟩
    · split
      · exact old.2.2
      · exact old.1
    · split
      · rfl
      · exact old.2.2
  · intro pointer member
    have old := kept.nonnull pointer
    simp only [AsyncLogging.swap, frontEnd, nothing, List.nil_append, List.mem_append,
      List.mem_singleton] at member old
    rcases member with front | rfl
    · exact old front
    · exact first
  · intro null
    exfalso
    simp only [AsyncLogging.swap] at null
    split at null
    · exact second null
    next filled => simp [null] at filled
  · refine ⟨rfl, by simp [AsyncLogging.swap], ?_, by simpa [AsyncLogging.swap] using small⟩
    intro null
    have moved : l.nextBuffer = none := by
      by_contra filled
      simp [AsyncLogging.swap, filled] at null
      exact second null
    have queued := List.length_pos_iff.mpr (kept.spare moved)
    simp only [AsyncLogging.swap, List.length_append, List.length_singleton]
    omega

theorem inBatch_iff : l.inBatch = true ↔
    ∃ position, l.backend = .writing position ∧ position < l.buffersToWrite.length := by
  unfold inBatch
  cases l.backend <;> simp

/-- The next buffer of the batch is there and is given to `LogFile`. -/
theorem write_eq (kept : Kept l) (enabled : l.inBatch = true) :
    ∃ position buffer, l.backend = .writing position ∧
      l.buffersToWrite.drop position = some buffer :: l.buffersToWrite.drop (position + 1) ∧
      l.step .write = .ok { l with
        written := l.written ++ [buffer.data], backend := .writing (position + 1) } := by
  obtain ⟨position, writing, inside⟩ := inBatch_iff.mp enabled
  have found : l.buffersToWrite[position]? = some l.buffersToWrite[position] :=
    List.getElem?_eq_getElem inside
  obtain ⟨buffer, filled⟩ := Option.ne_none_iff_exists'.mp
    (kept.nonnull l.buffersToWrite[position] (List.mem_append_left _ (List.getElem_mem inside)))
  refine ⟨position, buffer, writing, ?_, ?_⟩
  · rw [List.drop_eq_getElem_cons inside, filled]
  · simp only [AsyncLogging.step, writing, found, Option.getD_some, filled, deref, ok_bind]
    rfl

theorem write_yields (kept : Kept l) (enabled : l.inBatch = true) :
    Yields (l.step .write) Kept := by
  obtain ⟨position, buffer, writing, first, stepped⟩ := write_eq kept enabled
  rw [stepped]
  refine .ok ⟨?_, kept.cleared, kept.nonnull, kept.spare, ?_⟩
  · have whole := kept.whole
    simp only [chain, unwritten, writing, first] at whole
    simpa [chain, unwritten, frontEnd, contents_some] using whole
  · have stage := kept.stage
    rw [writing] at stage
    exact stage

/-- A null spare buffer is refilled from the last of the batch, which is not null. -/
theorem refill_yields {spare : BufferPtr} {batch : List BufferPtr} (line : Nat)
    (clear : contents spare = []) (enough : spare = none → batch ≠ [])
    (nonnull : ∀ pointer ∈ batch, pointer ≠ none) :
    Yields (refill spare batch line) fun out =>
      (∃ buffer, out.1 = some buffer ∧ buffer.data = []) ∧
      ((spare = none ∧ out.2 = batch.dropLast) ∨ (spare ≠ none ∧ out.2 = batch)) := by
  cases spare with
  | some buffer => exact .ok ⟨⟨buffer, rfl, clear⟩, .inr ⟨by simp, rfl⟩⟩
  | none =>
    have some := enough rfl
    simp only [refill, List.getLast?_eq_getLast_of_ne_nil some]
    apply Yields.bind (deref_yields (nonnull _ (List.getLast_mem some)) _)
    intro used _
    exact .ok ⟨⟨used.clear, rfl, rfl⟩, .inl ⟨trivial, rfl⟩⟩

/-- The two buffers kept for reuse are written and emptied. -/
theorem recycle_yields (kept : Kept l) (enabled : l.batchWritten = true) :
    Yields l.recycle Kept := by
  have done : l.backend = .writing l.buffersToWrite.length := by
    simpa [batchWritten] using enabled
  have stage := kept.stage
  rw [done] at stage
  obtain ⟨taken, nonempty, refills, _⟩ := stage
  have positive := List.length_pos_iff.mpr nonempty
  -- what `resize` leaves: at most two, all of them from the batch
  have resized : ∃ left, (if 2 < l.buffersToWrite.length then l.buffersToWrite.take 2
      else l.buffersToWrite) = left ∧ left ≠ [] ∧ (l.newBuffer2 = none → 2 ≤ left.length) ∧
      ∀ pointer ∈ left, pointer ≠ none := by
    refine ⟨_, rfl, ?_, ?_, ?_⟩
    · split
      · apply List.ne_nil_of_length_pos
        rw [List.length_take]
        omega
      · exact nonempty
    · intro null
      have two := refills null
      split
      · rw [List.length_take]
        omega
      · exact two
    · intro pointer member
      apply kept.nonnull pointer (List.mem_append_left _ _)
      split at member
      · exact List.mem_of_mem_take member
      · exact member
  obtain ⟨left, resized, some, two, nonnull⟩ := resized
  unfold AsyncLogging.recycle
  rw [resized]
  apply Yields.bind (refill_yields 91 (kept.cleared _ (by simp)) (fun _ => some) nonnull)
  rintro ⟨first, rest⟩ ⟨⟨buffer1, first_eq, clear1⟩, popped⟩
  have rest_eq : rest = left.dropLast := by
    rcases popped with ⟨_, rest_eq⟩ | ⟨filled, _⟩
    · exact rest_eq
    · exact absurd taken filled
  have second := @refill_yields l.newBuffer2 rest 97 (kept.cleared _ (by simp))
    (by
      intro null
      apply List.ne_nil_of_length_pos
      have := two null
      rw [rest_eq, List.length_dropLast]
      omega)
    (by
      intro pointer member
      rw [rest_eq] at member
      exact nonnull pointer (List.mem_of_mem_dropLast member))
  apply Yields.bind second
  rintro ⟨second, rest⟩ ⟨⟨buffer2, second_eq, clear2⟩, _⟩
  dsimp only at first_eq second_eq
  subst first_eq second_eq
  refine .ok ⟨?_, ?_, ?_, kept.spare, by simp [StageInv]⟩
  · have whole := kept.whole
    simp only [chain, unwritten, done, List.drop_length] at whole
    simpa [chain, unwritten, frontEnd] using whole
  · have next := kept.cleared l.nextBuffer (by simp)
    simp [contents_some, next, clear1, clear2]
  · intro pointer member
    exact kept.nonnull pointer (List.mem_append_right _ (by simpa [frontEnd] using member))

/-- Moving between stages that do not write. -/
theorem Kept.move (kept : Kept l) {stage : BackendStage} {running : Bool}
    (before : ∀ position, l.backend ≠ .writing position)
    (after : stage = .writing 0 ∨ ∀ position, stage ≠ .writing position)
    (holds : StageInv stage l.newBuffer1 l.newBuffer2 l.buffersToWrite) :
    Kept { l with backend := stage, running := running } := by
  have same : unwritten { l with backend := stage, running := running } = unwritten l := by
    rw [unwritten_idle before]
    rcases after with rfl | other
    · rfl
    · exact unwritten_idle other
  refine ⟨?_, kept.cleared, kept.nonnull, kept.spare, holds⟩
  have whole := kept.whole
  simp only [chain, frontEnd] at whole ⊢
  rwa [same]

/-- No step follows a null pointer or takes the last of no buffers. -/
theorem step_yields {a : Act} (kept : Kept l) (enabled : l.Enabled a) (fits : Fits l a) :
    Yields (l.step a) Kept := by
  have stage := kept.stage
  cases a with
  | append logline => exact append_yields kept fits
  | start =>
    have absent : l.backend = .absent := enabled
    rw [absent] at stage
    exact .ok (kept.move (by simp [absent]) (.inr (by simp)) stage)
  | enter =>
    have entering : l.backend = .entering := enabled
    rw [entering] at stage
    have nothing : l.buffersToWrite = [] := stage
    refine .ok ⟨?_, ?_, kept.nonnull, kept.spare, by simp [StageInv, nothing]⟩
    · have whole := kept.whole
      simp only [chain, unwritten, entering] at whole
      simpa [chain, unwritten, frontEnd] using whole
    · have next := kept.cleared l.nextBuffer (by simp)
      simp [contents_some, next, LogStream.new]
  | test =>
    have testing : l.backend = .testing := enabled
    rw [testing] at stage
    refine .ok (kept.move (by simp [testing]) (.inr ?_) ?_)
    · intro position
      split <;> simp
    · split
      · exact stage
      · exact stage.2.2
  | lock =>
    have locking : l.backend = .locking := enabled
    rw [locking] at stage
    simp only [AsyncLogging.step]
    split
    · exact .ok (kept.move (by simp [locking]) (.inr (by simp)) stage)
    · exact .ok (swap_kept kept fits stage (by simp [locking]))
  | wake =>
    have waiting : l.backend = .waiting := enabled
    rw [waiting] at stage
    exact .ok (swap_kept kept fits stage (by simp [waiting]))
  | dropExcess =>
    have swapped : l.backend = .swapped := enabled
    rw [swapped] at stage
    have small := Swapped.small stage
    have all : AsyncLogging.dropExcess l.buffersToWrite = l.buffersToWrite := by
      rw [AsyncLogging.dropExcess, if_neg (by omega)]
    simp only [AsyncLogging.step, all]
    exact .ok (kept.move (by simp [swapped]) (.inl rfl) stage)
  | write => exact write_yields kept enabled
  | recycle => exact recycle_yields kept enabled
  | stop => exact .ok ⟨kept.whole, kept.cleared, kept.nonnull, kept.spare, kept.stage⟩
  | join => exact .ok ⟨kept.whole, kept.cleared, kept.nonnull, kept.spare, kept.stage⟩

theorem run_kept {actions : List Act}
    (run : (machine.restrict Fits).Run AsyncLogging.new actions l) : Kept l :=
  @Machine.Run.invariant _ _ _ (machine.restrict Fits) Kept _ _ _
    (fun _ _ _ kept enabled stepped => (step_yields kept enabled.1 enabled.2).of_ok stepped)
    new_kept run

/-- In every state of every run with lines that fit a buffer and batches of at most 25
buffers, the lines are kept in lock order and whole, the spare buffers are clear, and no
step is undefined. -/
theorem lines_kept {actions : List Act}
    (run : (machine.restrict Fits).Run AsyncLogging.new actions l) :
    LinesKept (machine.restrict Fits) l := by
  have kept := run_kept run
  refine ⟨kept.whole.flatten, kept.whole, kept.cleared, ?_⟩
  intro a enabled
  obtain ⟨l', stepped, _⟩ := step_yields kept enabled.1 enabled.2
  exact ⟨l', stepped⟩

instance (l : AsyncLogging) (a : Act) : Decidable (Fits l a) :=
  match a with
  | .append _ | .lock | .wake => inferInstanceAs (Decidable (_ ≤ _))
  | .start | .enter | .test | .dropExcess | .write | .recycle | .stop | .join => isTrue trivial

/-- One line is written while another one is in the front end. -/
theorem lines_kept_two_lines : ∃ l,
    (machine.restrict Fits).Run AsyncLogging.new
      [.append [97, 10], .start, .enter, .test, .lock, .wake, .append [98, 10], .dropExcess,
        .write] l ∧
    l.written = [[97, 10]] ∧ LinesKept (machine.restrict Fits) l := by
  obtain ⟨l, run, written⟩ := (machine.restrict Fits).exists_run_of_exec AsyncLogging.new
    [.append [97, 10], .start, .enter, .test, .lock, .wake, .append [98, 10], .dropExcess, .write]
    (fun l => l.written = [[97, 10]]) (by decide +kernel)
  exact ⟨l, run, by simpa using written, lines_kept run⟩

/-! ## The end -/

/-- When `stop` has returned, what had been appended before it was called has been written. -/
def NothingLost (l : AsyncLogging) : Prop :=
  l.stopping = .returned → l.linesAtStop.flatten <+: l.written.flatten

/-- `stop` finds the backend between its test of `running_` and its swap, or no byte in the
front end. -/
def Timely (l : AsyncLogging) (a : Act) : Prop :=
  Fits l a ∧ (a = .stop → l.backend = .locking ∨ l.backend = .waiting ∨
    ∀ pointer ∈ frontEnd l, contents pointer = [])

/-- The bytes that reach `LogFile` without another swap. -/
def beyondSwap (l : AsyncLogging) : List UInt8 :=
  (l.written ++ (unwritten l).map contents).flatten

/-- The lines from before `stop` are past the swap, or one more swap will come. -/
def Owed (l : AsyncLogging) : Prop :=
  l.linesAtStop.flatten <+: beyondSwap l ∨
    (l.linesAtStop <+: l.lines ∧ (l.backend = .locking ∨ l.backend = .waiting))

structure Flushed (l : AsyncLogging) : Prop where
  kept : Kept l
  stopped : l.stopping ≠ .notCalled → Owed l
  returned : l.stopping = .returned → l.backend = .exited

theorem flatten_chain (l : AsyncLogging) :
    (chain l).flatten = beyondSwap l ++ ((frontEnd l).map contents).flatten := by
  simp [chain, beyondSwap]

theorem new_flushed : Flushed AsyncLogging.new :=
  ⟨new_kept, by simp [AsyncLogging.new], by simp [AsyncLogging.new]⟩

/-- At a timely `stop` the lines shown so far are past the swap, or will be. -/
theorem stop_owed (kept : Kept l) (timely : Timely l .stop) :
    Owed { l with running := false, stopping := .joining, linesAtStop := l.lines } := by
  rcases timely.2 rfl with locking | waiting | empty
  · exact .inr ⟨List.prefix_refl _, .inl locking⟩
  · exact .inr ⟨List.prefix_refl _, .inr waiting⟩
  · left
    have nothing : ((frontEnd l).map contents).flatten = [] := by
      simpa [List.flatten_eq_nil_iff] using empty
    have stream := kept.whole.flatten
    rw [flatten_chain, nothing, List.append_nil] at stream
    change l.lines.flatten <+: beyondSwap l
    rw [stream]

/-- The swap takes everything that the front end holds. -/
theorem swap_owed (kept : Kept l) (owed : Owed l)
    (nothing : l.buffersToWrite = []) (idle : ∀ position, l.backend ≠ .writing position) :
    Owed l.swap := by
  have before : unwritten l = [] := (unwritten_idle idle).trans nothing
  have all : beyondSwap l.swap = (chain l).flatten := by
    rw [chain, before]
    simp [beyondSwap, unwritten, AsyncLogging.swap, frontEnd]
  have grown : beyondSwap l <+: (chain l).flatten := by
    rw [flatten_chain]
    exact List.prefix_append _ _
  left
  rw [all]
  rcases owed with past | ⟨early, _⟩
  · exact past.trans grown
  · obtain ⟨later, same⟩ := early
    rw [kept.whole.flatten, ← same, List.flatten_append]
    exact List.prefix_append _ _

/-- Another stage, with the same bytes past the swap. -/
theorem Owed.move (owed : Owed l) (same : beyondSwap l' = beyondSwap l)
    (marked : l'.linesAtStop = l.linesAtStop) (grown : l.lines <+: l'.lines)
    (waits : l.backend = .locking ∨ l.backend = .waiting →
      l'.backend = .locking ∨ l'.backend = .waiting) : Owed l' := by
  unfold Owed
  rw [same, marked]
  rcases owed with past | ⟨early, before⟩
  · exact .inl past
  · exact .inr ⟨early.trans grown, waits before⟩

theorem append_beyond {logline : List UInt8} (success : l.append logline = .ok l') :
    beyondSwap l' = beyondSwap l ∧ l'.linesAtStop = l.linesAtStop ∧ l'.backend = l.backend ∧
      l'.stopping = l.stopping ∧ l.lines <+: l'.lines := by
  obtain ⟨current, _, success⟩ := bind_eq_ok success
  dsimp only at success
  split at success
  · cases success
    exact ⟨rfl, rfl, rfl, rfl, List.prefix_append _ _⟩
  · cases success
    exact ⟨rfl, rfl, rfl, rfl, List.prefix_append _ _⟩

theorem write_beyond (kept : Kept l) (enabled : l.inBatch = true)
    (success : l.step .write = .ok l') :
    beyondSwap l' = beyondSwap l ∧ l'.linesAtStop = l.linesAtStop ∧ l'.lines = l.lines ∧
      l'.stopping = l.stopping := by
  obtain ⟨position, buffer, writing, first, stepped⟩ := write_eq kept enabled
  rw [stepped] at success
  cases success
  exact ⟨by simp [beyondSwap, unwritten, writing, first, contents_some], rfl, rfl, rfl⟩

theorem recycle_beyond (enabled : l.batchWritten = true) (success : l.recycle = .ok l') :
    beyondSwap l' = beyondSwap l ∧ l'.linesAtStop = l.linesAtStop ∧ l'.lines = l.lines ∧
      l'.stopping = l.stopping := by
  have done : l.backend = .writing l.buffersToWrite.length := by
    simpa [batchWritten] using enabled
  obtain ⟨first, _, success⟩ := bind_eq_ok success
  obtain ⟨second, _, success⟩ := bind_eq_ok success
  cases success
  exact ⟨by simp [beyondSwap, unwritten, done], rfl, rfl, rfl⟩

/-- What is owed to the lines from before `stop` stays owed until it is paid. -/
theorem step_owed {a : Act} (kept : Kept l) (owed : l.stopping ≠ .notCalled → Owed l)
    (enabled : l.Enabled a) (timely : Timely l a) (stepped : l.step a = .ok l')
    (called : l'.stopping ≠ .notCalled) : Owed l' := by
  have stage := kept.stage
  cases a with
  | append logline =>
    obtain ⟨same, marked, backend, stopping, grown⟩ := append_beyond stepped
    refine (owed (by rwa [stopping] at called)).move same marked grown ?_
    rw [backend]
    exact id
  | start =>
    have absent : l.backend = .absent := enabled
    cases stepped
    refine (owed called).move ?_ rfl (List.prefix_refl _) (by simp [absent])
    simp [beyondSwap, unwritten, absent]
  | enter =>
    have entering : l.backend = .entering := enabled
    cases stepped
    refine (owed called).move ?_ rfl (List.prefix_refl _) (by simp [entering])
    simp [beyondSwap, unwritten, entering]
  | test =>
    have testing : l.backend = .testing := enabled
    cases stepped
    refine (owed called).move ?_ rfl (List.prefix_refl _) (by simp [testing])
    simp only [beyondSwap, unwritten, testing]
    cases l.running <;> rfl
  | lock =>
    have locking : l.backend = .locking := enabled
    rw [locking] at stage
    simp only [AsyncLogging.step] at stepped
    split at stepped
    · cases stepped
      refine (owed called).move ?_ rfl (List.prefix_refl _) (by simp)
      simp [beyondSwap, unwritten, locking]
    · cases stepped
      exact swap_owed kept (owed called) stage.2.2 (by simp [locking])
  | wake =>
    have waiting : l.backend = .waiting := enabled
    rw [waiting] at stage
    cases stepped
    exact swap_owed kept (owed called) stage.2.2 (by simp [waiting])
  | dropExcess =>
    have swapped : l.backend = .swapped := enabled
    rw [swapped] at stage
    have small := Swapped.small stage
    cases stepped
    refine (owed called).move ?_ rfl (List.prefix_refl _) (by simp [swapped])
    simp [beyondSwap, unwritten, swapped, AsyncLogging.dropExcess, Nat.not_lt.mpr small]
  | write =>
    obtain ⟨same, marked, lines, stopping⟩ := write_beyond kept enabled stepped
    obtain ⟨position, writing, _⟩ := inBatch_iff.mp enabled
    refine (owed (by rwa [stopping] at called)).move same marked ?_ (by simp [writing])
    rw [lines]
  | recycle =>
    obtain ⟨same, marked, lines, stopping⟩ := recycle_beyond enabled stepped
    have done : l.backend = .writing l.buffersToWrite.length := by
      simpa [Enabled, batchWritten] using enabled
    refine (owed (by rwa [stopping] at called)).move same marked ?_ (by simp [done])
    rw [lines]
  | stop =>
    cases stepped
    exact stop_owed kept timely
  | join =>
    cases stepped
    have joining : l.stopping = .joining := enabled.1
    exact owed (by simp [joining])

/-- Once `stop` has returned there is no backend left to take a step. -/
theorem exited_of_returned {a : Act} (kept : Kept l)
    (exited : l.stopping = .returned → l.backend = .exited) (enabled : l.Enabled a)
    (stepped : l.step a = .ok l') (returned : l'.stopping = .returned) :
    l'.backend = .exited := by
  cases a with
  | append logline =>
    obtain ⟨_, _, backend, stopping, _⟩ := append_beyond stepped
    rw [backend]
    exact exited (stopping ▸ returned)
  | join =>
    cases stepped
    exact enabled.2
  | stop =>
    cases stepped
    cases returned
  | write =>
    obtain ⟨_, _, _, stopping⟩ := write_beyond kept enabled stepped
    have gone := exited (stopping ▸ returned)
    simp [Enabled, inBatch, gone] at enabled
  | recycle =>
    obtain ⟨_, _, _, stopping⟩ := recycle_beyond enabled stepped
    have gone := exited (stopping ▸ returned)
    simp [Enabled, batchWritten, gone] at enabled
  | lock =>
    have locking : l.backend = .locking := enabled
    simp only [AsyncLogging.step] at stepped
    have same : l'.stopping = l.stopping := by
      split at stepped
      · cases stepped
        rfl
      · cases stepped
        rfl
    have gone := exited (same ▸ returned)
    rw [gone] at locking
    cases locking
  | start | enter | test | wake | dropExcess =>
    cases stepped
    have gone := exited returned
    simp [Enabled, gone] at enabled

theorem step_flushed {a : Act} (flushed : Flushed l) (enabled : l.Enabled a)
    (timely : Timely l a) (stepped : l.step a = .ok l') : Flushed l' where
  kept := (step_yields flushed.kept enabled timely.1).of_ok stepped
  stopped := step_owed flushed.kept flushed.stopped enabled timely stepped
  returned := exited_of_returned flushed.kept flushed.returned enabled stepped

theorem Flushed.nothingLost (flushed : Flushed l) : NothingLost l := by
  intro returned
  have exited := flushed.returned returned
  have stage := flushed.kept.stage
  rw [exited] at stage
  have nothing : l.buffersToWrite = [] := stage
  rcases flushed.stopped (by simp [returned]) with past | ⟨_, locking | waiting⟩
  · simpa [beyondSwap, unwritten, exited, nothing] using past
  · rw [exited] at locking
    cases locking
  · rw [exited] at waiting
    cases waiting

/-- In every run with lines that fit a buffer and batches of at most 25 buffers, in which
`stop` comes while the backend is between its test and its swap or the front end is empty:
once `stop` has returned, everything appended before it has been written. -/
theorem nothing_lost {actions : List Act}
    (run : (machine.restrict Timely).Run AsyncLogging.new actions l) : NothingLost l := by
  have flushed := @Machine.Run.invariant _ _ _ (machine.restrict Timely) Flushed _ _ _
    (fun _ _ _ flushed enabled stepped => step_flushed flushed enabled.1 enabled.2 stepped)
    new_flushed run
  exact flushed.nothingLost

instance (l : AsyncLogging) (a : Act) : Decidable (Timely l a) :=
  inferInstanceAs (Decidable (_ ∧ (_ → _ ∨ _ ∨ _)))

/-- `stop` wakes the waiting backend, which takes the line along. -/
theorem nothing_lost_while_waiting : ∃ l,
    (machine.restrict Timely).Run AsyncLogging.new
      [.start, .enter, .test, .lock, .append [97, 10], .stop, .wake, .dropExcess, .write,
        .recycle, .test, .join] l ∧
    l.stopping = .returned ∧ l.linesAtStop = [[97, 10]] ∧ NothingLost l := by
  obtain ⟨l, run, ended⟩ := (machine.restrict Timely).exists_run_of_exec AsyncLogging.new
    [.start, .enter, .test, .lock, .append [97, 10], .stop, .wake, .dropExcess, .write,
      .recycle, .test, .join]
    (fun l => decide (l.stopping = .returned ∧ l.linesAtStop = [[97, 10]])) (by decide +kernel)
  have ended := of_decide_eq_true ended
  exact ⟨l, run, ended.1, ended.2, nothing_lost run⟩

/-- A line appended while the backend writes is not there when `stop` returns. -/
theorem line_lost_on_stop : ∃ l,
    (machine.restrict Fits).Run AsyncLogging.new
      [.start, .enter, .test, .lock, .wake, .append [97, 10], .stop, .dropExcess, .write,
        .recycle, .test, .join] l ∧ ¬ NothingLost l := by
  obtain ⟨l, run, ended⟩ := (machine.restrict Fits).exists_run_of_exec AsyncLogging.new
    [.start, .enter, .test, .lock, .wake, .append [97, 10], .stop, .dropExcess, .write,
      .recycle, .test, .join]
    (fun l => decide (l.stopping = .returned ∧ l.linesAtStop = [[97, 10]] ∧ l.written = [[]]))
    (by decide +kernel)
  have ended := of_decide_eq_true ended
  refine ⟨l, run, ?_⟩
  intro nothing
  have found := nothing ended.1
  rw [ended.2.1, ended.2.2] at found
  simp at found

end Starry.Guarantees.LogLines
