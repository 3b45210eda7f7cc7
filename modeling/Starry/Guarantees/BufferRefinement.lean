import Mathlib.Logic.Function.Basic
import Starry.Foundation.Runs
import Starry.Source.BufferSpec

/-!
# `Buffer` refines a plain byte string

A pool of buffers, each constructed with its own initial size, is driven by any sequence
of operations; a pool and not one buffer, because `swap` takes two. The specification
knows nothing of indices: `after` says what each operation does to the byte strings and
`replyOf` what it returns. An operation is enabled when its own asserted precondition
holds of the buffer it is called on (`Precondition`), and a `readv` result when the
iovecs offered could have produced it.

The assertion of line 252 is left out here; `append_trips` says when it fires.
-/
namespace Starry.Guarantees.BufferRefinement

open Starry.Foundation
open Starry.Source

variable {ι : Type} [DecidableEq ι]

abbrev Pool (ι : Type) := ι → Buffer
abbrev Contents (ι : Type) := ι → List UInt8

inductive Op (ι : Type) where
  | append (i : ι) (data : List UInt8)
  | prepend (i : ι) (data : List UInt8)
  | retrieve (i : ι) (len : Nat)
  /-- The pointer argument is `peek() + len`. -/
  | retrieveUntil (i : ι) (len : Nat)
  | retrieveAll (i : ι)
  | retrieveAsString (i : ι) (len : Nat)
  | unwrite (i : ι) (len : Nat)
  /-- `hasWritten(data.size())` after `data` was put at `beginWrite()`. -/
  | hasWritten (i : ι) (data : List UInt8)
  | ensureWritableBytes (i : ι) (len : Nat)
  | shrink (i : ι) (reserve : Nat)
  | swap (i j : ι)
  | readFd (i : ι) (result : ReadResult)

inductive Reply where
  | done
  | text (data : List UInt8)
  | read (n : Int) (savedErrno : Option Errno)
  deriving DecidableEq

/-- Replace one buffer by what an operation makes of it. -/
def onBuffer (pool : Pool ι) (i : ι) (outcome : Except Abort Buffer) :
    Except Abort (Pool ι × Reply) := do
  let b ← outcome
  return (Function.update pool i b, .done)

def apply (checkMove : Bool) (pool : Pool ι) : Op ι → Except Abort (Pool ι × Reply)
  | .append i data => onBuffer pool i ((pool i).append checkMove data)
  | .prepend i data => onBuffer pool i ((pool i).prepend data)
  | .retrieve i len => onBuffer pool i ((pool i).retrieve len)
  | .retrieveUntil i len => onBuffer pool i ((pool i).retrieveUntil ((pool i).readerIndex + len))
  | .retrieveAll i => onBuffer pool i (.ok (pool i).retrieveAll)
  | .retrieveAsString i len => do
    let (data, b) ← (pool i).retrieveAsString len
    return (Function.update pool i b, .text data)
  | .unwrite i len => onBuffer pool i ((pool i).unwrite len)
  | .hasWritten i data => onBuffer pool i (((pool i).fill data).hasWritten data.length)
  | .ensureWritableBytes i len => onBuffer pool i ((pool i).ensureWritableBytes checkMove len)
  | .shrink i reserve => onBuffer pool i ((pool i).shrink checkMove reserve)
  | .swap i j =>
    let (left, right) := (pool i).swap (pool j)
    .ok (Function.update (Function.update pool i left) j right, .done)
  | .readFd i result => do
    let out ← (pool i).readFd checkMove result
    return (Function.update pool i out.buffer, .read out.n out.savedErrno)

/-- The asserted precondition of each operation. -/
def Precondition (pool : Pool ι) : Op ι → Prop
  | .append _ _ | .retrieveAll _ | .ensureWritableBytes _ _ | .shrink _ _ | .swap _ _ => True
  | .prepend i data => data.length ≤ (pool i).prependableBytes
  | .retrieve i len | .retrieveUntil i len | .retrieveAsString i len | .unwrite i len =>
    len ≤ (pool i).readableBytes
  | .hasWritten i data => data.length ≤ (pool i).writableBytes
  | .readFd _ (.failed _) => True
  | .readFd i (.bytes data) => data.length ≤ (pool i).offered

/-- What each operation does to the byte strings. -/
def after (contents : Contents ι) : Op ι → Contents ι
  | .append i data | .hasWritten i data => Function.update contents i (contents i ++ data)
  | .prepend i data => Function.update contents i (data ++ contents i)
  | .retrieve i len | .retrieveUntil i len | .retrieveAsString i len =>
    Function.update contents i ((contents i).drop len)
  | .retrieveAll i => Function.update contents i []
  | .unwrite i len => Function.update contents i ((contents i).take ((contents i).length - len))
  | .ensureWritableBytes _ _ | .shrink _ _ => contents
  | .swap i j => Function.update (Function.update contents i (contents j)) j (contents i)
  | .readFd _ (.failed _) => contents
  | .readFd i (.bytes data) => Function.update contents i (contents i ++ data)

/-- What each operation returns. -/
def replyOf (contents : Contents ι) : Op ι → Reply
  | .retrieveAsString i len => .text ((contents i).take len)
  | .readFd _ (.failed errno) => .read (-1) (some errno)
  | .readFd _ (.bytes data) => .read data.length none
  | _ => .done

/-- What an operation promises beyond the contents. -/
def Promise (before : Pool ι) (op : Op ι) (later : Pool ι) : Prop :=
  match op with
  | .ensureWritableBytes i len => len ≤ (later i).writableBytes
  | .shrink i reserve => reserve ≤ (later i).writableBytes
  | .readFd _ (.failed _) => later = before
  | _ => True

/-- The operation moves eight readable bytes or fewer to the front. -/
def Trips (pool : Pool ι) : Op ι → Prop
  | .append i data => (pool i).MoveTrips data.length
  | .ensureWritableBytes i len => (pool i).MoveTrips len
  | .readFd i (.bytes data) => (pool i).SpillTrips data.length
  | _ => False

def machine : Machine (Pool ι) (Op ι) Abort where
  enabled := Precondition
  step pool op := (apply false pool op).map Prod.fst

def fresh (initialSize : ι → Nat) : Pool ι := fun i => Buffer.new (initialSize i)

def Refines (pool : Pool ι) (contents : Contents ι) : Prop :=
  ∀ i, (pool i).Represents (contents i)

theorem Refines.update {pool : Pool ι} {contents : Contents ι} (refines : Refines pool contents)
    {i : ι} {b : Buffer} {content : List UInt8} (rep : b.Represents content) :
    Refines (Function.update pool i b) (Function.update contents i content) := by
  intro j
  by_cases same : j = i
  · subst same
    simpa using rep
  · simpa [same] using refines j

theorem onBuffer_yields {pool : Pool ι} {contents : Contents ι} (refines : Refines pool contents)
    {i : ι} {outcome : Except Abort Buffer} {content : List UInt8} {extra : Buffer → Prop}
    (outcome_yields : Yields outcome fun b => b.Represents content ∧ extra b) :
    Yields (onBuffer pool i outcome) fun out =>
      Refines out.1 (Function.update contents i content) ∧ out.2 = .done ∧ extra (out.1 i) := by
  apply Yields.bind outcome_yields
  intro b holds
  exact .ok ⟨refines.update holds.1, rfl, by simpa using holds.2⟩

theorem onBuffer_yields_plain {pool : Pool ι} {contents : Contents ι}
    (refines : Refines pool contents) {i : ι} {outcome : Except Abort Buffer}
    {content : List UInt8} (outcome_yields : Yields outcome fun b => b.Represents content) :
    Yields (onBuffer pool i outcome) fun out =>
      Refines out.1 (Function.update contents i content) ∧ out.2 = .done ∧ True :=
  onBuffer_yields refines (outcome_yields.imp fun _ rep => ⟨rep, trivial⟩)

/-- One operation: called within its precondition it returns, the byte strings change as
specified, and it keeps its further promise; with the assertion of line 252 compiled in, when
it does not trip. -/
theorem apply_yields {checkMove : Bool} {pool : Pool ι} {contents : Contents ι}
    (refines : Refines pool contents) (op : Op ι) (pre : Precondition pool op)
    (safe : checkMove = true → ¬Trips pool op) :
    Yields (apply checkMove pool op) fun out =>
      Refines out.1 (after contents op) ∧ out.2 = replyOf contents op ∧ Promise pool op out.1 := by
  have lengths := fun i => (refines i).length_eq
  cases op with
  | append i data =>
    exact onBuffer_yields_plain refines (Buffer.append_yields (refines i) safe)
  | prepend i data => exact onBuffer_yields_plain refines (Buffer.prepend_yields (refines i) pre)
  | retrieve i len =>
    apply onBuffer_yields_plain refines
    exact Buffer.retrieve_yields (refines i) (by rw [lengths]; exact pre)
  | retrieveUntil i len =>
    have ordered := (refines i).ordered
    have last : (pool i).readerIndex + len ≤ (pool i).writerIndex := by
      simp only [Precondition, Buffer.readableBytes] at pre
      omega
    have dropped := Buffer.retrieveUntil_yields (refines i) (Nat.le_add_right _ len) last
    rw [Nat.add_sub_cancel_left] at dropped
    exact onBuffer_yields_plain refines dropped
  | retrieveAll i =>
    exact onBuffer_yields_plain refines (.ok (Buffer.retrieveAll_represents (refines i)))
  | retrieveAsString i len =>
    apply Yields.bind (Buffer.retrieveAsString_yields (refines i) (by rw [lengths]; exact pre))
    rintro ⟨data, b⟩ ⟨taken, rep⟩
    exact .ok ⟨refines.update rep, congrArg Reply.text taken, trivial⟩
  | unwrite i len =>
    apply onBuffer_yields_plain refines
    exact Buffer.unwrite_yields (refines i) (by rw [lengths]; exact pre)
  | hasWritten i data =>
    apply onBuffer_yields_plain refines
    exact (Buffer.hasWritten_yields (refines i) pre).imp fun _ holds => holds.1
  | ensureWritableBytes i len =>
    have kept := onBuffer_yields refines (i := i)
      (Buffer.ensureWritableBytes_yields (refines i) safe)
    rwa [Function.update_eq_self] at kept
  | shrink i reserve =>
    have kept := onBuffer_yields refines (i := i)
      (@Buffer.shrink_yields _ _ (refines i) checkMove reserve)
    rwa [Function.update_eq_self] at kept
  | swap i j => exact .ok ⟨(refines.update (refines j)).update (refines i), rfl, trivial⟩
  | readFd i result =>
    cases result with
    | failed errno =>
      refine .ok ⟨?_, rfl, ?_⟩
      · simpa [after] using refines
      · simp [Promise]
    | bytes data =>
      have unmoved : checkMove = true → (pool i).writableBytes < data.length →
          ¬((pool i).filledUp data).MoveTrips (data.length - (pool i).writableBytes) := by
        intro strict spills
        rw [Buffer.filledUp_moveTrips (refines i) spills]
        exact safe strict
      apply Yields.bind (Buffer.readFd_yields (refines i) unmoved)
      rintro out ⟨count, saved, rep⟩
      exact .ok ⟨refines.update rep, by rw [count, saved]; rfl, trivial⟩

theorem run_refines {pool pool' : Pool ι} {contents : Contents ι} {ops : List (Op ι)}
    (refines : Refines pool contents) (run : machine.Run pool ops pool') :
    Refines pool' (ops.foldl after contents) := by
  induction run generalizing contents with
  | done => exact refines
  | @next s t u op rest pre stepped _ ih =>
    obtain ⟨⟨later, reply⟩, returned, holds, _⟩ := @apply_yields _ _ false _ _ refines op pre (by simp)
    have same : t = later := by
      simp only [machine, returned, Except.map, Except.ok.injEq] at stepped
      exact stepped.symm
    exact ih (same ▸ holds)

/-- In every state reached by any operations within their preconditions the indices are
in order and the readable bytes are those of the specification; and from it every further
operation within its precondition returns what the specification returns, changes the
byte strings as specified, and keeps its promise on space or on a failed read. -/
theorem buffer_refines_bytes (initialSize : ι → Nat) (ops : List (Op ι)) (pool : Pool ι)
    (run : machine.Run (fresh initialSize) ops pool) :
    (∀ i, (pool i).readerIndex ≤ (pool i).writerIndex ∧
      (pool i).writerIndex ≤ (pool i).buffer.length) ∧
    (∀ i, (pool i).readable = ops.foldl after (fun _ => []) i) ∧
    ∀ op, Precondition pool op → ∃ later reply, apply false pool op = .ok (later, reply) ∧
      (∀ i, (later i).readable = after (fun j => (pool j).readable) op i) ∧
      reply = replyOf (fun j => (pool j).readable) op ∧ Promise pool op later := by
  have start : Refines (fresh initialSize) (fun _ => []) :=
    fun i => Buffer.new_represents (initialSize i)
  have reached := run_refines start run
  refine ⟨fun i => ⟨(reached i).ordered, (reached i).inside⟩,
    fun i => (reached i).readable_eq, ?_⟩
  intro op pre
  have contents : (fun j => (pool j).readable) = ops.foldl after (fun _ => []) :=
    funext fun j => (reached j).readable_eq
  obtain ⟨⟨later, reply⟩, returned, holds, replied, promised⟩ :=
    @apply_yields _ _ false _ _ reached op pre (by simp)
  refine ⟨later, reply, returned, ?_, ?_, promised⟩
  · intro i
    rw [contents]
    exact (holds i).readable_eq
  · rw [contents]
    exact replied

/-- Two buffers of initial size four: a prepend below the reserve, a swap, and a read that
spills over the writable area. -/
theorem buffer_refines_bytes_swapped_read : ∃ pool : Pool Bool,
    machine.Run (fresh fun _ => 4) [.append true [1, 2, 3], .prepend true [9], .retrieve true 2,
      .swap true false, .readFd false (.bytes [5, 6, 7])] pool ∧
    (pool false).readable = [2, 3, 5, 6, 7] := by
  have run : machine.Run (fresh fun _ : Bool => 4) [.append true [1, 2, 3], .prepend true [9],
      .retrieve true 2, .swap true false, .readFd false (.bytes [5, 6, 7])] _ :=
    .next trivial rfl (.next (by change 1 ≤ 8; decide) rfl (.next (by change 2 ≤ 4; decide) rfl
      (.next trivial rfl (.next (by change 3 ≤ 65537; decide) rfl (.done _)))))
  refine ⟨_, run, ?_⟩
  rw [(buffer_refines_bytes _ _ _ run).2.1 false]
  rfl

end Starry.Guarantees.BufferRefinement
