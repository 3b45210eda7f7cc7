import Starry.Guarantees.LogLines
import Starry.Source.LogPipeline

/-!
# Dropped buffers

`LogLines` follows the lines while batches hold at most 25 buffers. The backend cuts a longer batch
down to two buffers. What is cut off are whole buffers, which hold whole lines: `Surviving` says
that the state is one that the lines kept so far would have led to without the others, and a swap
of a long batch is, past the cut, the swap of its first two buffers (`swap_survives`).
-/
namespace Starry.Guarantees.DroppedBuffers

open Starry.Foundation
open Starry.Source
open Starry.Source.LogPipeline (isAppend)
open Starry.Guarantees.LogLines

variable {l l' : AsyncLogging} {kept : List (List UInt8)}

/-- The state with only `kept` recorded as appended, and past the cut of a long batch. -/
def settled (l : AsyncLogging) (kept : List (List UInt8)) : AsyncLogging :=
  { l with
    lines := kept
    buffersToWrite :=
      if l.backend = .swapped then AsyncLogging.dropExcess l.buffersToWrite
      else l.buffersToWrite }

/-- Some of the lines, in order, are all that the state has to do with. -/
def Surviving (l : AsyncLogging) : Prop :=
  ∃ kept, kept.Sublist l.lines ∧ Kept (settled l kept)

theorem settled_of_idle (idle : l.backend ≠ .swapped) (kept : List (List UInt8)) :
    settled l kept = { l with lines := kept } := by
  rw [settled, if_neg idle]

theorem new_survives : Surviving AsyncLogging.new :=
  ⟨[], .refl _, new_kept⟩

/-- `append` does not look at the lines that were shown before. -/
theorem append_settled (l : AsyncLogging) (kept : List (List UInt8)) (logline : List UInt8) :
    (settled l kept).append logline =
      (l.append logline).map fun l' => settled l' (kept ++ [logline]) := by
  unfold AsyncLogging.append settled
  cases l.currentBuffer with
  | none => rfl
  | some current =>
    simp only [AsyncLogging.deref, ok_bind, pure_eq_ok]
    split <;> rfl

theorem append_effect {logline : List UInt8} (success : l.append logline = .ok l') :
    l'.lines = l.lines ++ [logline] ∧ l'.backend = l.backend ∧ l'.written = l.written := by
  obtain ⟨current, _, success⟩ := bind_eq_ok success
  dsimp only at success
  split at success
  · cases success
    exact ⟨rfl, rfl, rfl⟩
  · cases success
    exact ⟨rfl, rfl, rfl⟩

theorem append_survives (survives : Surviving l) {logline : List UInt8}
    (short : logline.length ≤ kLargeBuffer) : Yields (l.append logline) Surviving := by
  obtain ⟨kept, among, good⟩ := survives
  obtain ⟨after, appended, still⟩ := append_yields good short
  rw [append_settled] at appended
  cases result : l.append logline with
  | error reason =>
    rw [result] at appended
    cases appended
  | ok l' =>
    rw [result] at appended
    cases appended
    refine .ok ⟨kept ++ [logline], ?_, still⟩
    rw [(append_effect result).1]
    exact among.append (.refl _)

/-- The steps that neither take a line nor look at `lines`. -/
theorem step_relabel {a : AsyncLogging.Act} (quiet : isAppend a = false ∧ a ≠ .stop) :
    AsyncLogging.step { l with lines := kept } a =
      (l.step a).map fun l' => { l' with lines := kept } := by
  cases a with
  | append logline => cases quiet.1
  | stop => exact absurd rfl quiet.2
  | start | enter | test | wake | dropExcess | join => rfl
  | lock =>
    simp only [AsyncLogging.step]
    split <;> rfl
  | write =>
    obtain ⟨_, _, _, _, _, _, batch, backend, _, _, _, _⟩ := l
    cases backend with
    | writing position =>
      simp only [AsyncLogging.step]
      cases AsyncLogging.deref (batch[position]?.getD none) 83 <;> rfl
    | _ => rfl
  | recycle =>
    simp only [AsyncLogging.step, AsyncLogging.recycle]
    generalize AsyncLogging.refill l.newBuffer1 _ 91 = first
    cases first with
    | error reason => rfl
    | ok first =>
      simp only [ok_bind]
      cases AsyncLogging.refill l.newBuffer2 first.2 97 <;> rfl

theorem step_lines {a : AsyncLogging.Act} (quiet : isAppend a = false ∧ a ≠ .stop)
    (stepped : l.step a = .ok l') : l'.lines = l.lines := by
  have same : l.step a = (l.step a).map fun l' => { l' with lines := l.lines } :=
    @step_relabel l l.lines a quiet
  rw [stepped] at same
  have equal : l' = { l' with lines := l.lines } := Except.ok.inj same
  rw [equal]

/-- A step that swaps in no more than 25 buffers, if any. -/
theorem quiet_survives {a : AsyncLogging.Act} (survives : Surviving l)
    (quiet : isAppend a = false ∧ a ≠ .stop) (enabled : l.Enabled a) (fits : Fits l a)
    (idle : l.backend ≠ .swapped)
    (small : ∀ l', l.step a = .ok l' → l'.backend = .swapped →
      AsyncLogging.dropExcess l'.buffersToWrite = l'.buffersToWrite) :
    Yields (l.step a) Surviving := by
  obtain ⟨kept, among, good⟩ := survives
  rw [settled_of_idle idle] at good
  have relabelled : AsyncLogging.Enabled { l with lines := kept } a := by
    cases a <;> exact enabled
  have fitting : Fits { l with lines := kept } a := by
    cases a <;> exact fits
  obtain ⟨after, stepped, still⟩ := step_yields good relabelled fitting
  rw [step_relabel quiet] at stepped
  cases result : l.step a with
  | error reason =>
    rw [result] at stepped
    cases stepped
  | ok l' =>
    rw [result] at stepped
    cases stepped
    refine .ok ⟨kept, by rw [step_lines quiet result]; exact among, ?_⟩
    have uncut : settled l' kept = { l' with lines := kept } := by
      by_cases swapped : l'.backend = .swapped
      · rw [settled, if_pos swapped, small l' result swapped]
      · exact settled_of_idle swapped kept
    rw [uncut]
    exact still

/-- A swap of more than 25 buffers is, past the cut, the swap of the first two of them. -/
theorem swap_survives (survives : Surviving l)
    (before : l.backend = .locking ∨ l.backend = .waiting) : Surviving l.swap := by
  have idle : l.backend ≠ .swapped := by
    rcases before with locking | waiting
    · simp [locking]
    · simp [waiting]
  obtain ⟨kept, among, good⟩ := survives
  rw [settled_of_idle idle] at good
  have ready : l.newBuffer1 ≠ none ∧ l.newBuffer2 ≠ none ∧ l.buffersToWrite = [] := by
    have stage := good.stage
    rcases before with locking | waiting
    · simpa [StageInv, locking] using stage
    · simpa [StageInv, waiting] using stage
  have pausing : ∀ position, l.backend ≠ .writing position := by
    rcases before with locking | waiting
    · simp [locking]
    · simp [waiting]
  by_cases small : l.buffers.length + 1 ≤ 25
  · refine ⟨kept, among, ?_⟩
    have uncut : settled l.swap kept = AsyncLogging.swap { l with lines := kept } := by
      simp [settled, AsyncLogging.swap, AsyncLogging.dropExcess, Nat.not_lt.mpr small]
    rw [uncut]
    exact swap_kept good small ready pausing
  · obtain ⟨first, second, rest, buffers⟩ :
        ∃ first second rest, l.buffers = first :: second :: rest := by
      rcases found : l.buffers with _ | ⟨first, _ | ⟨second, rest⟩⟩
      · simp [found] at small
      · simp [found] at small
      · exact ⟨first, second, rest, rfl⟩
    have whole := good.whole
    have front : chain { l with lines := kept } =
        (l.written ++ (unwritten l).map contents ++ [contents first, contents second]) ++
          (rest ++ [l.currentBuffer]).map contents := by
      simp [chain, unwritten, frontEnd, buffers]
    rw [front] at whole
    obtain ⟨fewer, subset, short⟩ := whole.front
    have shed : Kept { l with lines := fewer, buffers := [first], currentBuffer := second } := by
      refine ⟨?_, good.cleared, ?_, by simp, good.stage⟩
      · simpa [chain, unwritten, frontEnd] using short
      · intro pointer member
        apply good.nonnull pointer
        simp only [frontEnd, buffers, List.mem_append, List.mem_cons, List.not_mem_nil,
          or_false] at member ⊢
        tauto
    refine ⟨fewer, subset.sublist.trans among, ?_⟩
    have cut : settled l.swap fewer = AsyncLogging.swap
        { l with lines := fewer, buffers := [first], currentBuffer := second } := by
      have long : 25 < (first :: second :: rest ++ [l.currentBuffer]).length := by
        rw [buffers] at small
        simp only [List.length_append, List.length_cons, List.length_nil] at small ⊢
        omega
      simp only [settled, AsyncLogging.swap, AsyncLogging.dropExcess, buffers]
      rw [if_pos trivial, if_pos long]
      rfl
    rw [cut]
    exact swap_kept shed (by simp) ready pausing

/-- Every step keeps the lines that survive whole and in order. -/
theorem step_survives {a : AsyncLogging.Act} (survives : Surviving l) (enabled : l.Enabled a)
    (short : ∀ logline, a = .append logline → logline.length ≤ kLargeBuffer) :
    Yields (l.step a) Surviving := by
  cases a with
  | append logline => exact append_survives survives (short logline rfl)
  | start =>
    have absent : l.backend = .absent := enabled
    exact quiet_survives survives (by simp [isAppend]) enabled trivial (by simp [absent])
      (by rintro _ ⟨⟩ ⟨⟩)
  | enter =>
    have entering : l.backend = .entering := enabled
    exact quiet_survives survives (by simp [isAppend]) enabled trivial (by simp [entering])
      (by rintro _ ⟨⟩ ⟨⟩)
  | test =>
    have testing : l.backend = .testing := enabled
    refine quiet_survives survives (by simp [isAppend]) enabled trivial (by simp [testing]) ?_
    rintro _ ⟨⟩ swapped
    dsimp only at swapped
    split at swapped <;> cases swapped
  | lock =>
    have locking : l.backend = .locking := enabled
    by_cases empty : l.buffers.isEmpty
    · have short : l.buffers.length + 1 ≤ 25 := by simp [List.isEmpty_iff.mp empty]
      refine quiet_survives survives (by simp [isAppend]) enabled short (by simp [locking]) ?_
      simp only [AsyncLogging.step, empty]
      rintro _ ⟨⟩ ⟨⟩
    · simp only [AsyncLogging.step, empty]
      exact .ok (swap_survives survives (.inl locking))
  | wake => exact .ok (swap_survives survives (.inr enabled))
  | dropExcess =>
    have swapped : l.backend = .swapped := enabled
    obtain ⟨kept, among, good⟩ := survives
    have here : (settled l kept).backend = .swapped := swapped
    have stage := good.stage
    rw [here] at stage
    refine .ok ⟨kept, among, ?_⟩
    have moved := @Kept.move _ good (.writing 0) l.running (by simp [here]) (.inl rfl) stage
    simpa [settled, swapped] using moved
  | write =>
    obtain ⟨position, writing, inside⟩ := inBatch_iff.mp enabled
    refine quiet_survives survives (by simp [isAppend]) enabled trivial (by simp [writing]) ?_
    intro l' stepped swapped
    simp only [AsyncLogging.step, writing] at stepped
    obtain ⟨buffer, _, success⟩ := bind_eq_ok stepped
    cases success
    cases swapped
  | recycle =>
    have done : l.backend = .writing l.buffersToWrite.length := by
      simpa [AsyncLogging.Enabled, AsyncLogging.batchWritten] using enabled
    refine quiet_survives survives (by simp [isAppend]) enabled trivial (by simp [done]) ?_
    intro l' stepped swapped
    obtain ⟨first, _, success⟩ := bind_eq_ok stepped
    obtain ⟨second, _, success⟩ := bind_eq_ok success
    cases success
    cases swapped
  | stop =>
    obtain ⟨kept, among, good⟩ := survives
    exact .ok ⟨kept, among, good.whole, good.cleared, good.nonnull, good.spare, good.stage⟩
  | join =>
    obtain ⟨kept, among, good⟩ := survives
    exact .ok ⟨kept, among, good.whole, good.cleared, good.nonnull, good.spare, good.stage⟩

end Starry.Guarantees.DroppedBuffers
