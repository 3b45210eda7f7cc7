import Mathlib.Tactic
import Mathlib.Data.List.TakeDrop

/-!
# Decoders of a stream that arrives in pieces

A decoder looks at the bytes received so far and either waits for more, refuses, or
takes a frame off the front. `stable` is the one property a stream decoder needs: a
decision, once made, is not changed by bytes that arrive later. From it follows that
draining after every piece delivers what draining the whole stream at once delivers
(`feed_eq_drain`), and that a refusal is final (`drain_of_fail`).
-/
namespace Starry.Foundation

inductive Verdict (Msg Err : Type) where
  | more
  | fail (reason : Err)
  | frame (message : Msg) (size : Nat)

structure StreamDecoder (α Msg Err : Type) where
  look : List α → Verdict Msg Err
  frame_size : ∀ {s message size}, look s = .frame message size → 0 < size ∧ size ≤ s.length
  stable : ∀ {s} (t : List α), look s ≠ .more → look (s ++ t) = look s

/-- What draining delivers: the messages in order, the refusal that stopped it if there
was one, and the bytes left. -/
structure Drained (α Msg Err : Type) where
  messages : List Msg
  error : Option Err
  rest : List α

namespace StreamDecoder

variable {α Msg Err : Type} (D : StreamDecoder α Msg Err)

def drain (s : List α) : Drained α Msg Err :=
  match _verdict : D.look s with
  | .more => ⟨[], none, s⟩
  | .fail reason => ⟨[], some reason, s⟩
  | .frame message size =>
    let later := drain (s.drop size)
    ⟨message :: later.messages, later.error, later.rest⟩
termination_by s.length
decreasing_by
  have bounds := D.frame_size _verdict
  rw [List.length_drop]
  omega

/-- The pieces are appended to the bytes pending, draining after each; the first refusal
is the one reported. -/
def feed (pending : List α) : List (List α) → Drained α Msg Err
  | [] => ⟨[], none, pending⟩
  | piece :: pieces =>
    let now := D.drain (pending ++ piece)
    let later := feed now.rest pieces
    ⟨now.messages ++ later.messages, now.error <|> later.error, later.rest⟩

variable {D}

theorem drain_of_more {s : List α} (waits : D.look s = .more) : D.drain s = ⟨[], none, s⟩ := by
  rw [drain]
  split <;> simp_all

theorem drain_of_fail {s : List α} {reason : Err} (refuses : D.look s = .fail reason) :
    D.drain s = ⟨[], some reason, s⟩ := by
  rw [drain]
  split <;> simp_all

theorem drain_of_frame {s : List α} {message : Msg} {size : Nat}
    (takes : D.look s = .frame message size) :
    D.drain s = ⟨message :: (D.drain (s.drop size)).messages, (D.drain (s.drop size)).error,
      (D.drain (s.drop size)).rest⟩ := by
  rw [drain]
  split <;> simp_all

/-- Induction along the frames that draining takes off. -/
@[elab_as_elim] theorem frames_induction {motive : List α → Prop}
    (more : ∀ s, D.look s = .more → motive s)
    (fail : ∀ s reason, D.look s = .fail reason → motive s)
    (frame : ∀ s message count, D.look s = .frame message count → motive (s.drop count) → motive s)
    (s : List α) : motive s := by
  induction size : s.length using Nat.strongRecOn generalizing s with
  | ind n ih =>
    cases verdict : D.look s with
    | more => exact more s verdict
    | fail reason => exact fail s reason verdict
    | frame message count =>
      have bounds := D.frame_size verdict
      have shorter : (s.drop count).length < n := by
        rw [List.length_drop]
        omega
      exact frame s message count verdict (ih _ shorter _ rfl)

/-- Draining leaves nothing that could be taken off, and keeps the reason why. -/
theorem drain_rest (s : List α) :
    D.drain (D.drain s).rest = ⟨[], (D.drain s).error, (D.drain s).rest⟩ := by
  induction s using D.frames_induction with
  | more s verdict => simp only [drain_of_more verdict]
  | fail s reason verdict => simp only [drain_of_fail verdict]
  | frame s message count verdict ih =>
    simp only [drain_of_frame verdict]
    exact ih

theorem drain_append (s t : List α) :
    D.drain (s ++ t) =
      ⟨(D.drain s).messages ++ (D.drain ((D.drain s).rest ++ t)).messages,
        (D.drain ((D.drain s).rest ++ t)).error, (D.drain ((D.drain s).rest ++ t)).rest⟩ := by
  induction s using D.frames_induction with
  | more s verdict => simp only [drain_of_more verdict, List.nil_append]
  | fail s reason verdict => simp only [drain_of_fail verdict, List.nil_append]
  | frame s message count verdict ih =>
    have same : D.look (s ++ t) = .frame message count := by
      rw [D.stable t (by rw [verdict]; simp), verdict]
    have front : (s ++ t).drop count = s.drop count ++ t :=
      List.drop_append_of_le_length (D.frame_size verdict).2
    rw [drain_of_frame same, front, ih, drain_of_frame verdict]
    simp

/-- What the verdict on the bytes left over was. -/
theorem look_rest (s : List α) :
    D.look (D.drain s).rest =
      match (D.drain s).error with
      | none => .more
      | some reason => .fail reason := by
  induction s using D.frames_induction with
  | more s verdict => simpa only [drain_of_more verdict] using verdict
  | fail s reason verdict => simpa only [drain_of_fail verdict] using verdict
  | frame s message count verdict ih =>
    simp only [drain_of_frame verdict]
    exact ih

/-- Draining cuts the stream into the pieces it took off, each with its message, and the rest. -/
theorem drain_split (s : List α) :
    ∃ frames : List (List α × Msg),
      s = (frames.map Prod.fst).flatten ++ (D.drain s).rest ∧
      (D.drain s).messages = frames.map Prod.snd ∧
      ∀ frame ∈ frames, ∃ later, D.look (frame.1 ++ later) = .frame frame.2 frame.1.length := by
  induction s using D.frames_induction with
  | more s verdict => exact ⟨[], by simp [drain_of_more verdict]⟩
  | fail s reason verdict => exact ⟨[], by simp [drain_of_fail verdict]⟩
  | frame s message count verdict ih =>
    obtain ⟨frames, cut, delivered, taken⟩ := ih
    refine ⟨(s.take count, message) :: frames, ?_, ?_, ?_⟩
    · rw [drain_of_frame verdict, List.map_cons, List.flatten_cons, List.append_assoc, ← cut,
        List.take_append_drop]
    · rw [drain_of_frame verdict, List.map_cons, delivered]
    · intro frame member
      rcases List.mem_cons.mp member with rfl | member
      · have inside := (D.frame_size verdict).2
        refine ⟨s.drop count, ?_⟩
        rw [List.take_append_drop, List.length_take, Nat.min_eq_left inside, verdict]
      · exact taken frame member

/-- A refusal is final: whatever arrives later, it is repeated and nothing is delivered. -/
theorem drain_of_error {s t : List α} {reason : Err} (stuck : D.drain s = ⟨[], some reason, s⟩) :
    D.drain (s ++ t) = ⟨[], some reason, s ++ t⟩ := by
  cases verdict : D.look s with
  | more => simp [drain_of_more verdict] at stuck
  | frame message size => simp [drain_of_frame verdict] at stuck
  | fail other =>
    have agree : other = reason := by simpa [drain_of_fail verdict] using stuck
    apply drain_of_fail
    rw [D.stable t (by rw [verdict]; simp), verdict, agree]

/-- Feeding pieces into bytes that are already drained delivers what one drain of the
whole delivers. -/
theorem feed_eq_drain {pending : List α} {reported : Option Err}
    (settled : D.drain pending = ⟨[], reported, pending⟩) (pieces : List (List α)) :
    (D.feed pending pieces).messages = (D.drain (pending ++ pieces.flatten)).messages ∧
    (reported <|> (D.feed pending pieces).error) = (D.drain (pending ++ pieces.flatten)).error ∧
    (D.feed pending pieces).rest = (D.drain (pending ++ pieces.flatten)).rest := by
  induction pieces generalizing pending reported with
  | nil => simp [feed, settled]
  | cons piece pieces ih =>
    obtain ⟨messages, error, rest⟩ := ih (drain_rest (pending ++ piece))
    rw [List.flatten_cons, ← List.append_assoc, drain_append (pending ++ piece)]
    refine ⟨by simp only [feed, messages], ?_, by simp only [feed, rest]⟩
    simp only [feed, error]
    cases reported with
    | none => rfl
    | some reason =>
      -- the refusal already reported is the one every later drain repeats
      have again := drain_of_error (t := piece) settled
      rw [again] at error ⊢
      rw [← error]
      rfl

end StreamDecoder

end Starry.Foundation
