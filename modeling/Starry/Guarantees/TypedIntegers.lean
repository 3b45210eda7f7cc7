import Starry.Guarantees.BufferRefinement

/-!
# Typed integers through a `Buffer`

Signed integers of the four widths are appended to a buffer and read back, in any order in
which each read follows the append it answers and asks for its width (`Matched`). The buffer
starts from any state that any use of the class leads to, so it grows, moves its contents and
resets its indices wherever that falls between the two ends of a value.

What is between the ends is the octets of the values still to be read, each as
`BigEndian.signedOctets` lays it out: the most significant octet of the two's complement
first. The assertion of line 252 is left out here too.
-/
namespace Starry.Guarantees.TypedIntegers

open Starry.Foundation
open Starry.Source
open Starry.Guarantees.BufferRefinement (Pool Precondition apply fresh machine onBuffer)

inductive IntWidth where
  | int8
  | int16
  | int32
  | int64
  deriving DecidableEq

/-- `sizeof` of the type. -/
def IntWidth.bytes : IntWidth → Nat
  | .int8 => 1
  | .int16 => 2
  | .int32 => 4
  | .int64 => 8

inductive TypedInt where
  | int8 (x : Int8)
  | int16 (x : Int16)
  | int32 (x : Int32)
  | int64 (x : Int64)
  deriving DecidableEq

namespace TypedInt

def width : TypedInt → IntWidth
  | .int8 _ => .int8
  | .int16 _ => .int16
  | .int32 _ => .int32
  | .int64 _ => .int64

def value : TypedInt → Int
  | .int8 x => x.toInt
  | .int16 x => x.toInt
  | .int32 x => x.toInt
  | .int64 x => x.toInt

/-- The octets of a value, the most significant first. -/
def bigEndian (v : TypedInt) : List UInt8 := BigEndian.signedOctets v.width.bytes v.value

end TypedInt

/-- The `appendIntN` of the value's type. -/
def appendTyped (b : Buffer) : TypedInt → Except Abort Buffer
  | .int8 x => b.appendInt8 false x.toInt
  | .int16 x => b.appendInt16 false x.toInt
  | .int32 x => b.appendInt32 false x.toInt
  | .int64 x => b.appendInt64 false x.toInt

/-- The `prependIntN` of the value's type. -/
def prependTyped (b : Buffer) : TypedInt → Except Abort Buffer
  | .int8 x => b.prependInt8 x.toInt
  | .int16 x => b.prependInt16 x.toInt
  | .int32 x => b.prependInt32 x.toInt
  | .int64 x => b.prependInt64 x.toInt

/-- The `readIntN` of the width. -/
def readTyped (b : Buffer) : IntWidth → Except Abort (Int × Buffer)
  | .int8 => b.readInt8
  | .int16 => b.readInt16
  | .int32 => b.readInt32
  | .int64 => b.readInt64

inductive Op where
  | append (v : TypedInt)
  | read (w : IntWidth)
  deriving DecidableEq

def appended : List Op → List TypedInt
  | [] => []
  | .append v :: rest => v :: appended rest
  | .read _ :: rest => appended rest

def reads : List Op → List IntWidth
  | [] => []
  | .append _ :: rest => reads rest
  | .read w :: rest => w :: reads rest

/-- At every point the reads so far have, one by one, the widths of the appends so far: the
`k`-th read has the width of the `k`-th append and comes after it. -/
def Matched (ops : List Op) : Prop :=
  ∀ before, before <+: ops → reads before <+: (appended before).map TypedInt.width

instance (ops : List Op) : Decidable (Matched ops) :=
  decidable_of_iff (∀ before ∈ ops.inits, reads before <+: (appended before).map TypedInt.width)
    (by simp only [Matched, List.mem_inits])

/-- The calls one after the other: what the reads return and the buffer left behind. -/
def transfer (b : Buffer) : List Op → Except Abort (List Int × Buffer)
  | [] => .ok ([], b)
  | .append v :: rest => do
    let longer ← appendTyped b v
    transfer longer rest
  | .read w :: rest => do
    let (x, shorter) ← readTyped b w
    let (values, last) ← transfer shorter rest
    return (x :: values, last)

/-- A buffer of some pool that operations within their preconditions lead to. -/
def Reachable (b : Buffer) : Prop :=
  ∃ (ι : Type) (_ : DecidableEq ι) (initialSize : ι → Nat) (history : List (BufferRefinement.Op ι))
    (pool : Pool ι) (i : ι), machine.Run (fresh initialSize) history pool ∧ pool i = b

/-! ## Values and octets -/

/-- `hostToNetwork` lays the octets out from the most significant. -/
theorem networkBytes_eq (v : TypedInt) :
    Buffer.networkBytes v.width.bytes v.value = v.bigEndian :=
  BigEndian.encode_ofSigned _ _

@[simp] theorem bigEndian_length (v : TypedInt) : v.bigEndian.length = v.width.bytes := by
  rw [← networkBytes_eq, Buffer.networkBytes_length]

theorem value_range (v : TypedInt) : -(2 ^ (8 * v.width.bytes) : Int) ≤ 2 * v.value ∧
    2 * v.value < 2 ^ (8 * v.width.bytes) := by
  cases v with
  | int8 x | int16 x | int32 x | int64 x =>
    have lower := x.le_toInt
    have upper := x.toInt_lt
    simp only [TypedInt.width, TypedInt.value, IntWidth.bytes]
    omega

theorem hostInt_bigEndian (v : TypedInt) : Buffer.hostInt v.width.bytes v.bigEndian = v.value := by
  obtain ⟨lower, upper⟩ := value_range v
  rw [← networkBytes_eq]
  exact Buffer.hostInt_networkBytes _ _ lower upper

/-- The four overloads of `appendInt` differ in the width only. -/
theorem appendTyped_eq (b : Buffer) (v : TypedInt) :
    appendTyped b v = b.append false v.bigEndian := by
  rw [← networkBytes_eq]
  cases v <;> rfl

theorem prependTyped_eq (b : Buffer) (v : TypedInt) :
    prependTyped b v = b.prepend v.bigEndian := by
  rw [← networkBytes_eq]
  cases v <;> rfl

/-- The four reads differ in the width and in the line of their assertion. -/
theorem readTyped_eq (b : Buffer) (w : IntWidth) :
    ∃ line, readTyped b w = b.readInt w.bytes line := by
  cases w <;> exact ⟨_, rfl⟩

/-! ## Reachable buffers -/

/-- A buffer that can be reached holds what is readable in it. -/
theorem Reachable.represents {b : Buffer} (reachable : Reachable b) :
    b.Represents b.readable := by
  obtain ⟨ι, _, initialSize, history, pool, i, run, rfl⟩ := reachable
  have reached := BufferRefinement.run_refines
    (fun i => Buffer.new_represents (initialSize i)) run i
  exact ⟨reached.ordered, reached.inside, reached.reserve, rfl⟩

/-- An operation on the buffer alone, within its precondition. -/
theorem Reachable.after {b later : Buffer} (reachable : Reachable b)
    (op : ∀ ι : Type, ι → BufferRefinement.Op ι)
    (allowed : ∀ (ι : Type) (pool : Pool ι) (i : ι), pool i = b → Precondition pool (op ι i))
    (applied : ∀ (ι : Type) [DecidableEq ι] (pool : Pool ι) (i : ι), pool i = b →
      apply false pool (op ι i) = onBuffer pool i (.ok later)) : Reachable later := by
  obtain ⟨ι, _, initialSize, history, pool, i, run, same⟩ := reachable
  have stepped : machine.step pool (op ι i) = .ok (Function.update pool i later) := by
    simp only [machine, applied ι pool i same]
    rfl
  exact ⟨ι, _, initialSize, history ++ [op ι i], _, i,
    run.snoc (allowed ι pool i same) stepped, Function.update_self _ _ _⟩

theorem Reachable.append {b longer : Buffer} (reachable : Reachable b) {data : List UInt8}
    (returned : b.append false data = .ok longer) : Reachable longer := by
  apply reachable.after (fun _ i => .append i data)
  · intro _ _ _ _
    trivial
  · intro _ _ pool i same
    simp only [apply, same, returned]

theorem Reachable.prepend {b longer : Buffer} (reachable : Reachable b) {data : List UInt8}
    (room : data.length ≤ b.prependableBytes) (returned : b.prepend data = .ok longer) :
    Reachable longer := by
  apply reachable.after (fun _ i => .prepend i data)
  · intro _ pool i same
    simpa only [Precondition, same] using room
  · intro _ _ pool i same
    simp only [apply, same, returned]

theorem Reachable.retrieve {b shorter : Buffer} (reachable : Reachable b) {len : Nat}
    (enough : len ≤ b.readableBytes) (returned : b.retrieve len = .ok shorter) :
    Reachable shorter := by
  apply reachable.after (fun _ i => .retrieve i len)
  · intro _ pool i same
    simpa only [Precondition, same] using enough
  · intro _ _ pool i same
    simp only [apply, same, returned]

/-! ## One call -/

theorem appendTyped_yields {b : Buffer} (reachable : Reachable b) (v : TypedInt) :
    Yields (appendTyped b v) fun longer =>
      longer.readable = b.readable ++ v.bigEndian ∧ Reachable longer := by
  rw [appendTyped_eq]
  have grown := @Buffer.append_yields _ _ reachable.represents false v.bigEndian (by simp)
  exact (grown.imp fun _ rep => rep.readable_eq).and_of_ok fun _ returned =>
    reachable.append returned

theorem prependTyped_yields {b : Buffer} (reachable : Reachable b) {v : TypedInt}
    (room : v.width.bytes ≤ b.prependableBytes) :
    Yields (prependTyped b v) fun longer =>
      longer.readable = v.bigEndian ++ b.readable ∧ Reachable longer := by
  rw [← bigEndian_length] at room
  rw [prependTyped_eq]
  have grown := Buffer.prepend_yields reachable.represents room
  exact (grown.imp fun _ rep => rep.readable_eq).and_of_ok fun _ returned =>
    reachable.prepend room returned

/-- A read takes the value whose octets come first, and leaves the rest. -/
theorem readTyped_yields {b : Buffer} (reachable : Reachable b) {v : TypedInt}
    {rest : List UInt8} (front : b.readable = v.bigEndian ++ rest) :
    Yields (readTyped b v.width) fun out =>
      out.1 = v.value ∧ out.2.readable = rest ∧ Reachable out.2 := by
  have rep := reachable.represents
  have length := rep.length_eq
  rw [front] at rep length
  have enough : v.width.bytes ≤ (v.bigEndian ++ rest).length := by simp
  have taken : (v.bigEndian ++ rest).take v.width.bytes = v.bigEndian := by
    rw [← bigEndian_length, List.take_left]
  have dropped : (v.bigEndian ++ rest).drop v.width.bytes = rest := by
    rw [← bigEndian_length, List.drop_left]
  obtain ⟨line, same⟩ := readTyped_eq b v.width
  rw [same, Buffer.readInt, Buffer.peekInt_eq rep line enough, ok_bind, taken, hostInt_bigEndian]
  have left := Buffer.retrieve_yields rep enough
  rw [dropped] at left
  apply Yields.bind (left.and_of_ok fun _ returned =>
    reachable.retrieve (by rw [← length]; exact enough) returned)
  rintro shorter ⟨after, reached⟩
  exact .ok ⟨rfl, after.readable_eq, reached⟩

/-! ## Any matched sequence of calls -/

/-- `Matched` from the middle of a sequence, where `pending` has been appended and not yet
read. -/
def MatchedFrom (pending : List TypedInt) (ops : List Op) : Prop :=
  ∀ before, before <+: ops → reads before <+: (pending ++ appended before).map TypedInt.width

/-- The value that was appended is the last to be read. -/
theorem MatchedFrom.append {pending : List TypedInt} {v : TypedInt} {rest : List Op}
    (matched : MatchedFrom pending (.append v :: rest)) : MatchedFrom (pending ++ [v]) rest := by
  intro before early
  have held := matched (.append v :: before) (List.cons_prefix_cons.mpr ⟨rfl, early⟩)
  simpa only [reads, appended, List.append_assoc, List.singleton_append] using held

/-- A read finds a value pending, and of its own width. -/
theorem MatchedFrom.read {pending : List TypedInt} {w : IntWidth} {rest : List Op}
    (matched : MatchedFrom pending (.read w :: rest)) :
    ∃ v more, pending = v :: more ∧ v.width = w ∧ MatchedFrom more rest := by
  have first := matched [.read w] (List.cons_prefix_cons.mpr ⟨rfl, List.nil_prefix⟩)
  cases pending with
  | nil => simp [reads, appended] at first
  | cons v more =>
    simp only [reads, appended, List.append_nil, List.map_cons, List.cons_prefix_cons] at first
    refine ⟨v, more, rfl, first.1.symm, ?_⟩
    intro before early
    have held := matched (.read w :: before) (List.cons_prefix_cons.mpr ⟨rfl, early⟩)
    simp only [reads, appended, List.cons_append, List.map_cons, List.cons_prefix_cons] at held
    exact held.2

/-- The values come out as they went in, through growth and compaction. -/
theorem transfer_yields {b : Buffer} {pending : List TypedInt} {ops : List Op}
    (reachable : Reachable b) (content : b.readable = pending.flatMap TypedInt.bigEndian)
    (matched : MatchedFrom pending ops) :
    Yields (transfer b ops) fun out =>
      out.1 = ((pending ++ appended ops).take (reads ops).length).map TypedInt.value ∧
      out.2.readable =
        ((pending ++ appended ops).drop (reads ops).length).flatMap TypedInt.bigEndian ∧
      Reachable out.2 := by
  induction ops generalizing b pending with
  | nil => exact .ok ⟨rfl, by simpa [appended, reads] using content, reachable⟩
  | cons op rest ih =>
    cases op with
    | append v =>
      apply Yields.bind (appendTyped_yields reachable v)
      rintro longer ⟨grown, reached⟩
      have queued : longer.readable = (pending ++ [v]).flatMap TypedInt.bigEndian := by
        rw [grown, content]
        simp
      have later := ih reached queued matched.append
      simpa only [reads, appended, List.append_assoc, List.singleton_append] using later
    | read w =>
      obtain ⟨v, more, rfl, rfl, remaining⟩ := matched.read
      apply Yields.bind (readTyped_yields reachable content)
      rintro ⟨x, shorter⟩ ⟨rfl, left, reached⟩
      apply Yields.bind (ih reached left remaining)
      rintro ⟨values, last⟩ ⟨rfl, kept, final⟩
      exact .ok ⟨rfl, kept, final⟩

/-- From any reachable buffer with nothing to read, a matched sequence of calls returns from
all of them: the reads give the values appended, in order, and what is left to read is the
octets of the others, in order. From any reachable buffer with room in front, a value
prepended stands in front of the readable bytes, and reading it gives it back and leaves
them as they were. -/
theorem integers_travel_unchanged {b : Buffer} (reachable : Reachable b) :
    (b.readableBytes = 0 → ∀ ops, Matched ops → ∃ last,
      transfer b ops = .ok (((appended ops).take (reads ops).length).map TypedInt.value, last) ∧
      last.readable = ((appended ops).drop (reads ops).length).flatMap TypedInt.bigEndian ∧
      Reachable last) ∧
    ∀ v : TypedInt, v.width.bytes ≤ b.prependableBytes → ∃ longer last,
      prependTyped b v = .ok longer ∧ longer.readable = v.bigEndian ++ b.readable ∧
      readTyped longer v.width = .ok (v.value, last) ∧ last.readable = b.readable ∧
      Reachable last := by
  constructor
  · intro nothing ops matched
    have content : b.readable = [] := by
      rw [← List.length_eq_zero_iff, reachable.represents.length_eq, nothing]
    obtain ⟨⟨values, last⟩, returned, read, left, reached⟩ :=
      @transfer_yields b [] ops reachable content matched
    simp only [List.nil_append] at read left
    exact ⟨last, by rw [returned, read], left, reached⟩
  · intro v room
    obtain ⟨longer, returned, front, reached⟩ := prependTyped_yields reachable room
    obtain ⟨⟨x, last⟩, read, rfl, left, final⟩ := readTyped_yields reached front
    exact ⟨longer, last, returned, front, read, left, final⟩

/-- Two buffers of two bytes. One has an empty window past the reserve, and values of
different widths and signs make it move its contents, grow and reset its indices; the other
has a byte to read. -/
theorem integers_travel_mixed : ∃ pool : Pool Bool,
    machine.Run (fresh fun _ => 2) [.append true [1, 2, 3], .retrieve true 2, .unwrite true 1,
      .append false [7, 8], .retrieve false 1] pool ∧
    (∃ last, transfer (pool true) [.append (.int16 (-2)), .append (.int8 (-128)), .read .int16,
        .append (.int64 (-9000000000)), .read .int8, .append (.int32 70000), .read .int64] =
        .ok ([-2, -128, -9000000000], last) ∧ last.readable = [0, 1, 17, 112]) ∧
    ∃ longer last, prependTyped (pool false) (.int16 (-3)) = .ok longer ∧
      longer.readable = [255, 253, 8] ∧
      readTyped longer .int16 = .ok (-3, last) ∧ last.readable = [8] := by
  have run : machine.Run (fresh fun _ : Bool => 2) [.append true [1, 2, 3], .retrieve true 2,
      .unwrite true 1, .append false [7, 8], .retrieve false 1] _ :=
    .next trivial rfl (.next (by change 2 ≤ 3; decide) rfl (.next (by change 1 ≤ 1; decide) rfl
      (.next trivial rfl (.next (by change 1 ≤ 2; decide) rfl (.done _)))))
  have reached (i : Bool) := integers_travel_unchanged ⟨Bool, _, _, _, _, i, run, rfl⟩
  refine ⟨_, run, ?_, ?_⟩
  · obtain ⟨last, returned, left, _⟩ := (reached true).1 rfl [.append (.int16 (-2)),
      .append (.int8 (-128)), .read .int16, .append (.int64 (-9000000000)), .read .int8,
      .append (.int32 70000), .read .int64] (by decide)
    exact ⟨last, returned, left.trans (by decide)⟩
  · obtain ⟨longer, last, returned, front, read, left, _⟩ :=
      (reached false).2 (.int16 (-3)) (by decide)
    exact ⟨longer, last, returned, front.trans (by decide), read, left.trans (by decide)⟩

end Starry.Guarantees.TypedIntegers
