import Starry.Source.ProtobufCodecSpec
import Starry.Source.RpcCodec

/-!
# The decoder does not see how the stream was cut

The chunks of a stream are appended to an empty buffer one at a time and `onMessage` is
called after each. Whenever no append meets the misplaced assertion of `makeSpace` (line
252 of `buffer.h`, `MoveTrips`), the messages, the first error and the bytes left are
those of one append of the whole stream; an append that meets it ends the process, so
the law holds for exactly the other runs. A single append to a new buffer never meets it.
-/
namespace Starry.Guarantees.FrameChunking

open Starry.Foundation
open Starry.Source
open Starry.Source.ProtobufCodecLite

variable {Msg : Type}

/-- Append one chunk and call `onMessage`. -/
def feedChunk (c : ProtobufCodecLite Msg) (buf : Buffer) (chunk : List UInt8) :
    Except Abort (List (Event Msg) × Buffer) := do
  let filled ← buf.append true chunk
  c.onMessage filled

/-- Append the chunks one at a time, calling `onMessage` after each. -/
def feedChunks (c : ProtobufCodecLite Msg) (buf : Buffer) :
    List (List UInt8) → Except Abort (List (Event Msg) × Buffer)
  | [] => .ok ([], buf)
  | chunk :: chunks => do
    let (events, drained) ← feedChunk c buf chunk
    let (later, last) ← feedChunks c drained chunks
    return (events ++ later, last)

def messagesOf : List (Event Msg) → List Msg
  | [] => []
  | .message m :: events => m :: messagesOf events
  | .error _ :: events => messagesOf events

def firstError : List (Event Msg) → Option ErrorCode
  | [] => none
  | .message _ :: events => firstError events
  | .error code :: _ => some code

/-- No message is delivered once an error has been reported. -/
def SilentAfterError (events : List (Event Msg)) : Prop :=
  ∀ before code after, events = before ++ .error code :: after → messagesOf after = []

/-- The run over the chunks and the run over the whole stream both return, and agree. -/
def CutIndependent (c : ProtobufCodecLite Msg) (initialSize : Nat)
    (chunks : List (List UInt8)) : Prop :=
  ∃ events last whole wholeLast,
    feedChunks c (Buffer.new initialSize) chunks = .ok (events, last) ∧
    feedChunks c (Buffer.new initialSize) [chunks.flatten] = .ok (whole, wholeLast) ∧
    messagesOf events = messagesOf whole ∧ last.readable = wholeLast.readable ∧
    firstError events = firstError whole ∧ SilentAfterError events

/-- No chunk is appended to a buffer whose move it would trip. -/
def NeverTrips (c : ProtobufCodecLite Msg) (buf : Buffer) (chunks : List (List UInt8)) : Prop :=
  ∀ before chunk after, chunks = before ++ chunk :: after →
    ∀ events reached, feedChunks c buf before = .ok (events, reached) →
      ¬ reached.MoveTrips chunk.length

variable {c : ProtobufCodecLite Msg}

/-! ## Event lists -/

theorem messagesOf_append (first second : List (Event Msg)) :
    messagesOf (first ++ second) = messagesOf first ++ messagesOf second := by
  induction first with
  | nil => rfl
  | cons event first ih => cases event <;> simp [messagesOf, ih]

theorem firstError_append (first second : List (Event Msg)) :
    firstError (first ++ second) = (firstError first <|> firstError second) := by
  induction first with
  | nil => rfl
  | cons event first ih => cases event <;> simp [firstError, ih]

/-- The messages are delivered in order. -/
theorem messagesOf_eventsOf (drained : Drained UInt8 Msg ErrorCode) :
    messagesOf (eventsOf drained) = drained.messages := by
  obtain ⟨messages, error, rest⟩ := drained
  have delivered : ∀ ms : List Msg, messagesOf (ms.map .message) = ms := by
    intro ms
    induction ms with
    | nil => rfl
    | cons m ms ih => simp [messagesOf, ih]
  cases error <;> simp [eventsOf, messagesOf_append, delivered, messagesOf]

/-- A stream that is refused has one error. -/
theorem firstError_eventsOf (drained : Drained UInt8 Msg ErrorCode) :
    firstError (eventsOf drained) = drained.error := by
  obtain ⟨messages, error, rest⟩ := drained
  have silent : ∀ ms : List Msg, firstError (ms.map .message) = none := by
    intro ms
    induction ms with
    | nil => rfl
    | cons m ms ih => simp [firstError, ih]
  cases error <;> simp [eventsOf, firstError_append, silent, firstError]

theorem firstError_of_mem {events : List (Event Msg)} {code : ErrorCode}
    (member : .error code ∈ events) : firstError events ≠ none := by
  induction events with
  | nil => simp at member
  | cons event events ih =>
    cases event with
    | error other => simp [firstError]
    | message m => exact ih (by simpa using member)

/-- After the first error no message is delivered. -/
theorem SilentAfterError.append {first second : List (Event Msg)}
    (before : SilentAfterError first) (after : SilentAfterError second)
    (quiet : firstError first ≠ none → messagesOf second = []) :
    SilentAfterError (first ++ second) := by
  intro front code back split
  rcases List.append_eq_append_iff.mp split with ⟨gap, front_eq, second_eq⟩ | ⟨gap, first_eq, back_eq⟩
  · exact after gap code back second_eq
  · cases gap with
    | nil => exact after [] code back (by simpa using back_eq.symm)
    | cons event gap =>
      simp only [List.cons_append, List.cons.injEq] at back_eq
      obtain ⟨rfl, rfl⟩ := back_eq
      have reported : firstError first ≠ none := by
        refine firstError_of_mem (?_ : .error code ∈ first)
        simp [first_eq]
      rw [messagesOf_append, before front code gap first_eq, quiet reported]
      rfl

theorem silent_eventsOf (drained : Drained UInt8 Msg ErrorCode) :
    SilentAfterError (eventsOf drained) := by
  intro before code after split
  obtain ⟨messages, error, rest⟩ := drained
  -- the error, if there is one, is the last event
  rcases List.eq_nil_or_concat after with last | ⟨init, event, last⟩
  · subst last
    rfl
  · exfalso
    subst last
    have front : eventsOf ⟨messages, error, rest⟩ = (before ++ .error code :: init) ++ [event] := by
      simpa using split
    have member : (.error code : Event Msg) ∈ messages.map .message := by
      cases error with
      | none =>
        have whole : messages.map .message = (before ++ .error code :: init) ++ [event] := by
          simpa [eventsOf] using front
        simp [whole]
      | some reason =>
        have whole := List.append_inj_left' front rfl
        simp [whole]
    simp at member

/-! ## Runs over chunks -/

/-- A chunk for which the buffer has to move eight bytes or fewer ends the process. -/
theorem feedChunk_trips {buf : Buffer} {chunk : List UInt8} (trips : buf.MoveTrips chunk.length) :
    feedChunk c buf chunk = .error (.assertion .bufferH 252) := by
  rw [feedChunk, Buffer.append_trips trips]
  rfl

theorem feedChunk_yields {buf : Buffer} {pending chunk : List UInt8} (rep : buf.Represents pending)
    (safe : ¬ buf.MoveTrips chunk.length) :
    Yields (feedChunk c buf chunk) fun out =>
      out.1 = eventsOf (c.decoder.drain (pending ++ chunk)) ∧
      out.2.Represents (c.decoder.drain (pending ++ chunk)).rest := by
  apply Yields.bind (@Buffer.append_yields _ _ rep true chunk fun _ => safe)
  intro filled longer
  exact c.onMessage_yields longer

theorem feedChunks_cons {buf drained last : Buffer} {chunk : List UInt8}
    {chunks : List (List UInt8)} {events later : List (Event Msg)}
    (fed : feedChunk c buf chunk = .ok (events, drained))
    (run : feedChunks c drained chunks = .ok (later, last)) :
    feedChunks c buf (chunk :: chunks) = .ok (events ++ later, last) := by
  simp only [feedChunks, fed, run, ok_bind, pure_eq_ok]

theorem feedChunks_cons_ok {buf last : Buffer} {chunk : List UInt8} {chunks : List (List UInt8)}
    {all : List (Event Msg)} (run : feedChunks c buf (chunk :: chunks) = .ok (all, last)) :
    ∃ events drained later, feedChunk c buf chunk = .ok (events, drained) ∧
      feedChunks c drained chunks = .ok (later, last) ∧ all = events ++ later := by
  obtain ⟨⟨events, drained⟩, fed, run⟩ := bind_eq_ok run
  obtain ⟨⟨later, reached⟩, rest, run⟩ := bind_eq_ok run
  cases run
  exact ⟨events, drained, later, fed, rest, rfl⟩

/-- An append that trips ends the whole run. -/
theorem not_ok_of_trip {buf reached : Buffer} {before after : List (List UInt8)}
    {chunk : List UInt8} {events : List (Event Msg)}
    (run : feedChunks c buf before = .ok (events, reached)) (trips : reached.MoveTrips chunk.length)
    (out : List (Event Msg) × Buffer) : feedChunks c buf (before ++ chunk :: after) ≠ .ok out := by
  intro whole
  induction before generalizing buf events out with
  | nil =>
    cases run
    obtain ⟨_, _, _, fed, _⟩ := feedChunks_cons_ok whole
    rw [feedChunk_trips trips] at fed
    cases fed
  | cons first before ih =>
    obtain ⟨_, drained, _, fed, rest, _⟩ := feedChunks_cons_ok run
    obtain ⟨_, _, later, again, more, _⟩ := feedChunks_cons_ok whole
    rw [fed] at again
    cases again
    exact ih rest (later, out.2) more

theorem NeverTrips.tail {buf drained : Buffer} {chunk : List UInt8}
    {chunks : List (List UInt8)} {events : List (Event Msg)}
    (never : NeverTrips c buf (chunk :: chunks))
    (fed : feedChunk c buf chunk = .ok (events, drained)) : NeverTrips c drained chunks := by
  intro before next after split more reached run
  apply never (chunk :: before) next after (by rw [split]; rfl) (events ++ more) reached
  exact feedChunks_cons fed run

/-- Over bytes that are already drained, a run that never trips returns and follows the
decoder fed with the same pieces. -/
theorem feedChunks_yields {buf : Buffer} {pending : List UInt8} {chunks : List (List UInt8)}
    {reported : Option ErrorCode} (rep : buf.Represents pending)
    (settled : c.decoder.drain pending = ⟨[], reported, pending⟩)
    (never : NeverTrips c buf chunks) :
    Yields (feedChunks c buf chunks) fun out =>
      messagesOf out.1 = (c.decoder.feed pending chunks).messages ∧
      firstError out.1 = (c.decoder.feed pending chunks).error ∧
      out.2.Represents (c.decoder.feed pending chunks).rest ∧ SilentAfterError out.1 := by
  induction chunks generalizing buf pending reported with
  | nil =>
    refine .ok ⟨rfl, rfl, rep, ?_⟩
    intro before code after split
    simp at split
  | cons chunk chunks ih =>
    have safe : ¬ buf.MoveTrips chunk.length := never [] chunk chunks rfl [] buf rfl
    obtain ⟨⟨events, drained⟩, fed, delivered, left⟩ := feedChunk_yields (c := c) rep safe
    dsimp only at delivered left
    have rest_settled := StreamDecoder.drain_rest (D := c.decoder) (pending ++ chunk)
    obtain ⟨⟨later, last⟩, run, messages, error, reached, silent⟩ :=
      ih left rest_settled (never.tail fed)
    rw [feedChunks_cons fed run]
    refine .ok ⟨?_, ?_, reached, ?_⟩
    · rw [messagesOf_append, messages, delivered, messagesOf_eventsOf]
      rfl
    · rw [firstError_append, error, delivered, firstError_eventsOf]
      rfl
    · subst delivered
      apply (silent_eventsOf _).append silent
      rw [firstError_eventsOf, messages, (StreamDecoder.feed_eq_drain rest_settled chunks).1]
      intro refused
      obtain ⟨reason, stopped⟩ := Option.ne_none_iff_exists'.mp refused
      rw [stopped] at rest_settled
      rw [StreamDecoder.drain_of_error rest_settled]

/-- The whole stream in one chunk always fits. -/
theorem neverTrips_whole (initialSize : Nat) (s : List UInt8) :
    NeverTrips c (Buffer.new initialSize) [s] := by
  intro before chunk after split events reached run
  cases before with
  | nil =>
    cases run
    exact Buffer.not_moveTrips_of_low (Nat.le_refl _)
  | cons first before => simp at split

/-- For every codec, every initial size of the buffer, every stream and every way of
cutting it: the cut makes no difference if and only if no append of the run trips the
assertion in `makeSpace`. -/
theorem cutIndependent_iff (c : ProtobufCodecLite Msg) (initialSize : Nat)
    (chunks : List (List UInt8)) :
    CutIndependent c initialSize chunks ↔ NeverTrips c (Buffer.new initialSize) chunks := by
  constructor
  · rintro ⟨events, last, _, _, run, _⟩ before chunk after split seen reached first trips
    rw [split] at run
    exact not_ok_of_trip first trips (events, last) run
  · intro never
    have fresh := Buffer.new_represents initialSize
    obtain ⟨⟨events, last⟩, run, messages, error, left, silent⟩ :=
      feedChunks_yields fresh c.drain_nil never
    obtain ⟨⟨whole, wholeLast⟩, once, wholeMessages, wholeError, wholeLeft, _⟩ :=
      feedChunks_yields fresh c.drain_nil (neverTrips_whole initialSize chunks.flatten)
    have pieces := StreamDecoder.feed_eq_drain (D := c.decoder) c.drain_nil chunks
    have single := StreamDecoder.feed_eq_drain (D := c.decoder) c.drain_nil [chunks.flatten]
    rw [List.flatten_singleton] at single
    refine ⟨events, last, whole, wholeLast, run, once, ?_, ?_, ?_, silent⟩
    · rw [messages, wholeMessages, pieces.1, single.1]
    · rw [left.readable_eq, wholeLeft.readable_eq, pieces.2.2, single.2.2]
    · rw [error, wholeError]
      exact pieces.2.1.trans single.2.1.symm

/-- The frame of a message with no field set: twelve bytes. -/
def emptyFrame : List UInt8 := rpcCodec.frame ⟨[], Nat.two_pow_pos 14⟩

/-- Eighty-five frames and the first two bytes of another fill all but two bytes of a
buffer of the default size; when the other ten arrive they are moved to the front, and
the two bytes left do not exceed the reserve. -/
theorem cut_inside_length_trips :
    ¬ CutIndependent rpcCodec Buffer.kInitialSize
      [(List.replicate 85 emptyFrame).flatten ++ emptyFrame.take 2, emptyFrame.drop 2] := by
  rintro ⟨events, last, _, _, run, _⟩
  have aborts : feedChunks rpcCodec (Buffer.new Buffer.kInitialSize)
      [(List.replicate 85 emptyFrame).flatten ++ emptyFrame.take 2, emptyFrame.drop 2] =
        .error (.assertion .bufferH 252) := by
    decide +kernel
  rw [aborts] at run
  cases run

end Starry.Guarantees.FrameChunking
