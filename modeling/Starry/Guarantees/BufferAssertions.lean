import Starry.Guarantees.BufferRefinement
import Starry.Source.SizedBufferSpec

/-!
# The assertions inside `Buffer`

A pool of buffers under any operations within their preconditions, with every assertion
compiled in and sizes of type `size_t`. The assertion of line 252 asks for more than eight
readable bytes where it means a reader index above eight, so it fails when a short backlog lies
far enough into the buffer for the new bytes to fit after a move.

`HasRoom` is about the state before an operation. `assertions_hold_iff` is exact: as long as
there was room for every operation, an operation completes, with the buffers still in order, if
and only if there is room for it too.
-/
namespace Starry.Guarantees.BufferAssertions

open Starry.Foundation
open Starry.Source
open Starry.Source.SizedBuffer (Sound maxSize)
open Starry.Guarantees.BufferRefinement

variable {ι : Type} [DecidableEq ι]

/-- Replace one buffer by what an operation makes of it. -/
def putBack (pool : Pool ι) (i : ι) (outcome : Except SizedEnd Buffer) :
    Except SizedEnd (Pool ι × Reply) := do
  let b ← outcome
  return (Function.update pool i b, .done)

def perform (pool : Pool ι) : Op ι → Except SizedEnd (Pool ι × Reply)
  | .append i data => putBack pool i (SizedBuffer.append (pool i) data)
  | .ensureWritableBytes i len => putBack pool i (SizedBuffer.ensureWritableBytes (pool i) len)
  | .shrink i reserve => putBack pool i (SizedBuffer.shrink (pool i) reserve)
  | .readFd i result => do
    let out ← SizedBuffer.readFd (pool i) result
    return (Function.update pool i out.buffer, .read out.n out.savedErrno)
  | op => (apply true pool op).mapError .stopped

/-- The arguments are sizes. -/
def Sizes : Op ι → Prop
  | .append _ data => data.length < 2 ^ 64
  | .ensureWritableBytes _ len | .shrink _ len => len < 2 ^ 64
  | _ => True

def checked : Machine (Pool ι) (Op ι) SizedEnd where
  enabled pool op := Precondition pool op ∧ Sizes op
  step pool op := (perform pool op).map Prod.fst

/-- There is room for what the operation adds. -/
def HasRoom (pool : Pool ι) : Op ι → Prop
  | .append i data => SizedBuffer.Fits (pool i) data.length
  | .ensureWritableBytes i len => SizedBuffer.Fits (pool i) len
  | .shrink i reserve => SizedBuffer.ShrinkFits (pool i) reserve
  | .readFd i (.bytes data) => SizedBuffer.SpillFits (pool i) data.length
  | _ => True

/-- The operation returns, so that every assertion on its way was true, and all writer indices are
inside their vectors. -/
def Completes (pool : Pool ι) (op : Op ι) : Prop :=
  ∃ later reply, perform pool op = .ok (later, reply) ∧
    ∀ i, (later i).writerIndex ≤ (later i).buffer.length

instance (pool : Pool ι) (op : Op ι) : Decidable (Precondition pool op) :=
  match op with
  | .append _ _ | .retrieveAll _ | .ensureWritableBytes _ _ | .shrink _ _ | .swap _ _
  | .readFd _ (.failed _) => isTrue trivial
  | .prepend _ _ | .retrieve _ _ | .retrieveUntil _ _ | .retrieveAsString _ _ | .unwrite _ _
  | .hasWritten _ _ | .readFd _ (.bytes _) => inferInstanceAs (Decidable (_ ≤ _))

instance (op : Op ι) : Decidable (Sizes op) :=
  match op with
  | .append _ _ | .ensureWritableBytes _ _ | .shrink _ _ => inferInstanceAs (Decidable (_ < _))
  | .retrieveAll _ | .swap _ _ | .readFd _ _ | .prepend _ _ | .retrieve _ _ | .retrieveUntil _ _
  | .retrieveAsString _ _ | .unwrite _ _ | .hasWritten _ _ => isTrue trivial

instance (pool : Pool ι) (op : Op ι) : Decidable (HasRoom pool op) :=
  match op with
  | .append _ _ | .ensureWritableBytes _ _ => inferInstanceAs (Decidable (SizedBuffer.Fits _ _))
  | .shrink _ _ => inferInstanceAs (Decidable (SizedBuffer.ShrinkFits _ _))
  | .readFd _ (.bytes _) => inferInstanceAs (Decidable (SizedBuffer.SpillFits _ _))
  | .retrieveAll _ | .swap _ _ | .readFd _ (.failed _) | .prepend _ _ | .retrieve _ _
  | .retrieveUntil _ _ | .retrieveAsString _ _ | .unwrite _ _ | .hasWritten _ _ => isTrue trivial

instance (pool : Pool ι) (op : Op ι) : Decidable ((checked.restrict HasRoom).enabled pool op) :=
  inferInstanceAs (Decidable ((_ ∧ _) ∧ _))

variable {pool : Pool ι} {contents : Contents ι} {initialSize : ι → Nat} {ops : List (Op ι)}
  {op : Op ι}

/-! ## Operations that do not ask for room -/

def Plain : Op ι → Prop
  | .append _ _ | .ensureWritableBytes _ _ | .shrink _ _ | .readFd _ _ => False
  | _ => True

/-- Operations that ask for no room are those of the buffer without sizes. -/
theorem perform_plain (plain : Plain op) :
    perform pool op = (apply true pool op).mapError .stopped := by
  cases op with
  | append | ensureWritableBytes | shrink | readFd => exact plain.elim
  | prepend | retrieve | retrieveUntil | retrieveAll | retrieveAsString | unwrite | hasWritten
  | swap => rfl

theorem update_bounded {b : Buffer} (bounded : ∀ j, (pool j).buffer.length ≤ maxSize) (i : ι)
    (new : b.buffer.length ≤ maxSize) (j : ι) :
    (Function.update pool i b j).buffer.length ≤ maxSize := by
  by_cases same : j = i
  · subst same
    rwa [Function.update_self]
  · rw [Function.update_of_ne same]
    exact bounded j

theorem onBuffer_bounded {later : Pool ι} {reply : Reply} {i : ι} {outcome : Except Abort Buffer}
    (bounded : ∀ j, (pool j).buffer.length ≤ maxSize)
    (kept : ∀ b, outcome = .ok b → b.buffer.length = (pool i).buffer.length)
    (success : onBuffer pool i outcome = .ok (later, reply)) :
    ∀ j, (later j).buffer.length ≤ maxSize := by
  obtain ⟨b, returned, success⟩ := bind_eq_ok success
  cases success
  exact update_bounded bounded i (Nat.le_trans (Nat.le_of_eq (kept b returned)) (bounded i))

theorem retrieve_length {b rest : Buffer} {len : Nat} (success : b.retrieve len = .ok rest) :
    rest.buffer.length = b.buffer.length := by
  obtain ⟨_, _, success⟩ := bind_eq_ok success
  split at success <;> cases success <;> rfl

/-- They keep the lengths of the vectors. -/
theorem apply_bounded {later : Pool ι} {reply : Reply} (sound : ∀ i, Sound (pool i) (contents i))
    (plain : Plain op) (pre : Precondition pool op)
    (success : apply true pool op = .ok (later, reply)) :
    ∀ i, (later i).buffer.length ≤ maxSize := by
  have bounded := fun i => (sound i).bounded
  cases op with
  | append | ensureWritableBytes | shrink | readFd => exact plain.elim
  | prepend i data =>
    refine onBuffer_bounded bounded (fun b returned => ?_) success
    obtain ⟨_, _, returned⟩ := bind_eq_ok returned
    cases returned
    have ordered := (sound i).ordered
    have inside := (sound i).inside
    exact Memory.store_length _ _ _ (by
      simp only [Precondition, Buffer.prependableBytes] at pre
      omega)
  | retrieve i len => exact onBuffer_bounded bounded (fun _ => retrieve_length) success
  | retrieveUntil i len =>
    refine onBuffer_bounded bounded (fun b returned => ?_) success
    obtain ⟨_, _, returned⟩ := bind_eq_ok returned
    obtain ⟨_, _, returned⟩ := bind_eq_ok returned
    exact retrieve_length returned
  | retrieveAll i =>
    refine onBuffer_bounded bounded (fun b returned => ?_) success
    cases returned
    rfl
  | retrieveAsString i len =>
    obtain ⟨⟨text, rest⟩, taken, success⟩ := bind_eq_ok success
    cases success
    obtain ⟨_, _, taken⟩ := bind_eq_ok taken
    obtain ⟨_, retrieved, taken⟩ := bind_eq_ok taken
    cases taken
    exact update_bounded bounded i
      (Nat.le_trans (Nat.le_of_eq (retrieve_length retrieved)) (bounded i))
  | unwrite i len =>
    refine onBuffer_bounded bounded (fun b returned => ?_) success
    obtain ⟨_, _, returned⟩ := bind_eq_ok returned
    cases returned
    rfl
  | hasWritten i data =>
    refine onBuffer_bounded bounded (fun b returned => ?_) success
    obtain ⟨_, _, returned⟩ := bind_eq_ok returned
    cases returned
    exact Buffer.fill_length (sound i).toRepresents pre
  | swap i j =>
    cases success
    exact update_bounded (update_bounded bounded i (bounded j)) j (bounded i)

theorem plain_yields (sound : ∀ i, Sound (pool i) (contents i)) (plain : Plain op)
    (pre : Precondition pool op) :
    Yields (perform pool op) fun out => ∀ i, Sound (out.1 i) (after contents op i) := by
  have untripped : ¬Trips pool op := by
    cases op with
    | append | ensureWritableBytes | shrink | readFd => exact plain.elim
    | prepend | retrieve | retrieveUntil | retrieveAll | retrieveAsString | unwrite | hasWritten
    | swap => exact id
  obtain ⟨⟨later, reply⟩, returned, refines, _⟩ :=
    @apply_yields _ _ true _ _ (fun i => (sound i).toRepresents) op pre fun _ => untripped
  rw [perform_plain plain, returned]
  exact .ok fun i => ⟨refines i, apply_bounded sound plain pre returned i⟩

/-! ## Operations that do -/

theorem update_sound {b : Buffer} {content : List UInt8} (sound : ∀ i, Sound (pool i) (contents i))
    {i : ι} (new : Sound b content) (j : ι) :
    Sound (Function.update pool i b j) (Function.update contents i content j) := by
  by_cases same : j = i
  · subst same
    simpa using new
  · simpa [same] using sound j

/-- The buffer that an operation returns is put back. -/
theorem putBack_yields (sound : ∀ i, Sound (pool i) (contents i)) {i : ι}
    {outcome : Except SizedEnd Buffer} {content : List UInt8}
    (returns : Yields outcome fun b => Sound b content) :
    Yields (putBack pool i outcome) fun out =>
      ∀ j, Sound (out.1 j) (Function.update contents i content j) :=
  returns.bind fun _ new => .ok (update_sound sound new)

theorem perform_yields (sound : ∀ i, Sound (pool i) (contents i)) (pre : Precondition pool op)
    (room : HasRoom pool op) :
    Yields (perform pool op) fun out => ∀ i, Sound (out.1 i) (after contents op i) := by
  cases op with
  | append i data => exact putBack_yields sound (SizedBuffer.append_agrees (sound i) room).yields
  | ensureWritableBytes i len =>
    have ensured := (SizedBuffer.ensureWritableBytes_agrees (sound i) room).yields
    have kept := putBack_yields sound (i := i) (ensured.imp fun _ holds => holds.1)
    rwa [Function.update_eq_self] at kept
  | shrink i reserve =>
    have kept := putBack_yields sound (i := i) (SizedBuffer.shrink_yields (sound i) room)
    rwa [Function.update_eq_self] at kept
  | readFd i result =>
    cases result with
    | failed errno =>
      refine .ok ?_
      simpa [after] using sound
    | bytes data =>
      exact (SizedBuffer.readFd_agrees (sound i) room).yields.bind fun _ new =>
        .ok (update_sound sound new)
  | prepend | retrieve | retrieveUntil | retrieveAll | retrieveAsString | unwrite | hasWritten
  | swap => exact plain_yields sound trivial pre

theorem putBack_ok {outcome : Except SizedEnd Buffer} {i : ι} {later : Pool ι} {reply : Reply}
    (success : putBack pool i outcome = .ok (later, reply)) : outcome = .ok (later i) := by
  obtain ⟨b, returned, success⟩ := bind_eq_ok success
  cases success
  rw [Function.update_self, returned]

/-- What two iovecs offer is a size. -/
theorem read_lt {b : Buffer} {content data : List UInt8} (sound : Sound b content)
    (read : data.length ≤ b.offered) : data.length < 2 ^ 64 := by
  have sizes := sound.sizes
  have bounded := sound.bounded
  have spare : Buffer.extrabufSize = 65536 := rfl
  simp only [maxSize] at bounded
  unfold Buffer.offered at read
  split at read <;> omega

/-- Without room an operation does not return, or it leaves a writer index outside. -/
theorem room_of_completes (sound : ∀ i, Sound (pool i) (contents i)) (pre : Precondition pool op)
    (sizes : Sizes op) (completes : Completes pool op) : HasRoom pool op := by
  obtain ⟨later, reply, success, ordered⟩ := completes
  by_contra unfit
  cases op with
  | append i data => exact SizedBuffer.append_unfit (sound i) sizes unfit (putBack_ok success)
  | ensureWritableBytes i len =>
    have spoilt := SizedBuffer.ensureWritableBytes_unfit (sound i) sizes unfit (putBack_ok success)
    exact absurd (ordered i) (Nat.not_le.mpr spoilt)
  | shrink i reserve => exact SizedBuffer.shrink_unfit (sound i) unfit (putBack_ok success)
  | readFd i result =>
    cases result with
    | failed errno => exact unfit trivial
    | bytes data =>
      obtain ⟨out, returned, _⟩ := bind_eq_ok success
      exact SizedBuffer.readFd_unfit (sound i) (read_lt (sound i) pre) unfit returned
  | prepend | retrieve | retrieveUntil | retrieveAll | retrieveAsString | unwrite | hasWritten
  | swap => exact unfit trivial

/-! ## Runs -/

/-- In every run with room, the buffers hold what they should. -/
theorem reached_sound (constructed : ∀ i, Buffer.kCheapPrepend + initialSize i ≤ maxSize)
    (run : (checked.restrict HasRoom).Run (fresh initialSize) ops pool) :
    ∃ contents : Contents ι, ∀ i, Sound (pool i) (contents i) := by
  refine @Machine.Run.invariant _ _ _ (checked.restrict HasRoom)
    (fun pool => ∃ contents : Contents ι, ∀ i, Sound (pool i) (contents i)) _ _ _ ?_ ?_ run
  · rintro pool op pool' ⟨contents, sound⟩ ⟨⟨pre, _⟩, room⟩ stepped
    obtain ⟨⟨later, reply⟩, returned, holds⟩ := perform_yields sound pre room
    have same : later = pool' := by
      simpa [Machine.restrict, checked, returned, Except.map] using stepped
    subst same
    exact ⟨after contents op, holds⟩
  · exact ⟨fun _ => [], fun i => SizedBuffer.new_sound (constructed i)⟩

/-- In every state reached by operations within their preconditions that had room, an operation
within its precondition completes if and only if it has room. -/
theorem assertions_hold_iff (constructed : ∀ i, Buffer.kCheapPrepend + initialSize i ≤ maxSize)
    (run : (checked.restrict HasRoom).Run (fresh initialSize) ops pool)
    (enabled : checked.enabled pool op) : Completes pool op ↔ HasRoom pool op := by
  obtain ⟨contents, sound⟩ := reached_sound constructed run
  constructor
  · exact room_of_completes sound enabled.1 enabled.2
  · intro room
    obtain ⟨⟨later, reply⟩, returned, holds⟩ := perform_yields sound enabled.1 room
    exact ⟨later, reply, returned, fun i => (holds i).inside⟩

/-- Nine bytes are moved to the front, and the append completes. -/
theorem assertions_hold_iff_nine_bytes : ∃ pool : Pool Unit,
    (checked.restrict HasRoom).Run (fresh fun _ => 16)
      [.append () (List.replicate 16 7), .retrieve () 7] pool ∧
    (pool ()).readableBytes = 9 ∧ Completes pool (.append () [1, 2, 3]) := by
  obtain ⟨pool, run, holds⟩ := (checked.restrict HasRoom).exists_run_of_exec
    (fresh fun _ : Unit => 16) [.append () (List.replicate 16 7), .retrieve () 7]
    (fun pool => decide ((pool ()).readableBytes = 9 ∧ HasRoom pool (.append () [1, 2, 3])))
    (by decide +kernel)
  obtain ⟨nine, room⟩ := of_decide_eq_true holds
  have enabled : checked.enabled pool (.append () [1, 2, 3]) := ⟨trivial, by decide⟩
  exact ⟨pool, run, nine, (assertions_hold_iff (by decide) run enabled).mpr room⟩

/-- Four bytes are left at the end of a buffer of the default size; twenty more would fit after
a move. -/
theorem short_backlog_trips : ∃ pool : Pool Unit,
    (checked.restrict HasRoom).Run (fresh fun _ => Buffer.kInitialSize)
      [.append () (List.replicate 1020 7), .retrieve () 1016] pool ∧
    perform pool (.append () (List.replicate 20 7)) =
      .error (.stopped (.assertion .bufferH 252)) := by
  obtain ⟨pool, run, holds⟩ := (checked.restrict HasRoom).exists_run_of_exec
    (fresh fun _ : Unit => Buffer.kInitialSize)
    [.append () (List.replicate 1020 7), .retrieve () 1016]
    (fun pool => failsWith (perform pool (.append () (List.replicate 20 7)))
      (.stopped (.assertion .bufferH 252))) (by decide +kernel)
  exact ⟨pool, run, eq_error_of_failsWith holds⟩

/-- The greatest length trips the same assertion, since `len + kCheapPrepend` is seven. -/
example : failsWith (perform (fresh fun _ : Unit => Buffer.kInitialSize)
    (.ensureWritableBytes () (2 ^ 64 - 1))) (.stopped (.assertion .bufferH 252)) = true := by
  decide +kernel

end Starry.Guarantees.BufferAssertions
