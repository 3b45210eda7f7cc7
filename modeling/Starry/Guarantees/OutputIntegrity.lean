import Starry.Foundation.Runs
import Starry.Source.TcpConnectionSpec

/-!
# The output stream of a connection is intact

An open connection is driven by any order of `sendInLoop`, `handleWrite`,
`shutdownInLoop`, `startReadInLoop` and `stopReadInLoop`, and by the change to
`kDisconnecting` that `shutdown` and `forceClose` make. Writes are partial in any way the
kernel may choose. What the kernel has accepted followed by what is buffered is what was
sent, the channel asks for writability exactly while something is buffered, and the write
side is shut down only when nothing is.

A run ends where the process does: nothing is claimed of an append that meets the
assertion of `makeSpace`, or of a failing `::shutdown`.
-/
namespace Starry.Guarantees.OutputIntegrity

open Starry.Foundation
open Starry.Source
open Starry.Source.IoLoop

inductive Act where
  | sendInLoop (message : List UInt8) (result : WriteResult)
  | handleWrite (answers : Answers)
  | shutdownInLoop (result : Option Errno)
  | startReadInLoop
  | stopReadInLoop
  | disconnecting

/-- The results the kernel may give to the write of each action. -/
def Allowed (l : IoLoop) : Act → Prop
  | .sendInLoop message (.wrote n) => n ≤ message.length
  | .sendInLoop _ (.failed errno) => errno = .EWOULDBLOCK
  | .handleWrite answers => l.conn.channel.isWriting = true →
      ∃ n, answers.write = .wrote n ∧ 0 < n ∧ n ≤ l.conn.outputBuffer.readableBytes
  | _ => True

def machine : Machine IoLoop Act Abort where
  enabled l a := l.conn.isOpen = true ∧ Allowed l a
  step l
    | .sendInLoop message result => l.sendInLoop message result
    | .handleWrite answers => l.handleWrite answers
    | .shutdownInLoop result => l.shutdownInLoop result
    | .startReadInLoop => l.startReadInLoop
    | .stopReadInLoop => l.stopReadInLoop
    | .disconnecting => .ok (l.setState .kDisconnecting)

/-- The bytes the kernel has accepted. -/
def accepted : List Observation → List UInt8
  | [] => []
  | .accepted bytes :: seen => bytes ++ accepted seen
  | _ :: seen => accepted seen

/-- The messages given to `sendInLoop`, concatenated in call order. -/
def sentBy : List Act → List UInt8
  | [] => []
  | .sendInLoop message _ :: actions => message ++ sentBy actions
  | _ :: actions => sentBy actions

/-- A connection that has not sent anything yet. -/
structure Unused (l : IoLoop) : Prop where
  empty : l.conn.outputBuffer.Represents []
  idle : l.conn.channel.isWriting = false
  nothing : accepted l.seen = []
  running : ∀ backlog, .shutdownWrite backlog ∉ l.seen

structure Carries (sent : List UInt8) (l : IoLoop) : Prop where
  intact : ∃ pending, l.conn.outputBuffer.Represents pending ∧
    accepted l.seen ++ pending = sent ∧ (l.conn.channel.isWriting = true ↔ pending ≠ [])
  quiet : ∀ backlog, .shutdownWrite backlog ∈ l.seen → backlog = 0

variable {l l' : IoLoop} {sent : List UInt8}

theorem accepted_append (first second : List Observation) :
    accepted (first ++ second) = accepted first ++ accepted second := by
  induction first with
  | nil => rfl
  | cons observation first ih => cases observation <;> simp [accepted, ih]

theorem sentBy_append (first second : List Act) :
    sentBy (first ++ second) = sentBy first ++ sentBy second := by
  induction first with
  | nil => rfl
  | cons action first ih => cases action <;> simp [sentBy, ih]

/-- What is kept for later keeps the channel writing; an idle one has passed everything on. -/
theorem Carries.of_idle (carries : Carries sent l) (idle : l.conn.channel.isWriting = false) :
    l.conn.outputBuffer.Represents [] ∧ accepted l.seen = sent := by
  obtain ⟨pending, rep, whole, interest⟩ := carries.intact
  have nothing : pending = [] := by
    by_contra busy
    rw [interest.mpr busy] at idle
    cases idle
  subst nothing
  rw [List.append_nil] at whole
  exact ⟨rep, whole⟩

/-! ## Steps -/

/-- What is buffered comes behind what was buffered before. -/
theorem bufferOutput_carries {rest : List UInt8} (carries : Carries sent l) (some : rest ≠ [])
    (success : l.bufferOutput rest = .ok l') : Carries (sent ++ rest) l' := by
  obtain ⟨⟨pending, rep, whole, interest⟩, quiet⟩ := carries
  obtain ⟨longer, added, appended, _, outcome⟩ := bufferOutput_ok success
  have content := Buffer.append_ok rep appended
  have busy : pending ++ rest ≠ [] := by simp [some]
  rcases outcome with ⟨writing, rfl⟩ | ⟨_, reinterested⟩
  · refine ⟨⟨pending ++ rest, content, ?_, by simp [output, writing, busy]⟩, ?_⟩
    · simp [output, ← whole]
    · simpa [output] using quiet
  · rw [reinterested.effect]
    refine ⟨⟨pending ++ rest, content, ?_, ?_⟩, ?_⟩
    · simp [output, ← whole]
    · have bit := Channel.write_bit_set l.conn.channel.events
      simp [output, Channel.isWriting, Channel.updated, bit, busy]
    · simpa [output] using quiet

theorem writeDirectly_carries {data : List UInt8} {result : WriteResult} {nwrote : Nat}
    (carries : Carries sent l) (idle : l.conn.channel.isWriting = false)
    (success : l.writeDirectly data result = .ok (l', nwrote)) :
    Carries (sent ++ data.take nwrote) l' := by
  rcases writeDirectly_ok success with ⟨rfl, rfl⟩ | ⟨_, added, _, rfl⟩
  · simpa using carries
  · obtain ⟨rep, whole⟩ := carries.of_idle idle
    refine ⟨⟨[], rep, ?_, by simpa [output] using idle⟩, ?_⟩
    · simp [output, accepted_append, accepted, ← whole]
    · simpa [output] using carries.quiet

/-- `sendInLoop` sends its data once, in part directly and in part through the buffer. -/
theorem sendInLoop_carries {data : List UInt8} {result : WriteResult} (carries : Carries sent l)
    (isOpen : l.conn.isOpen = true) (success : l.sendInLoop data result = .ok l') :
    Carries (sent ++ data) l' := by
  rcases sendInLoop_ok success with ⟨closed, _⟩ | ⟨_, written, nwrote, direct, rest⟩
  · simp [TcpConnection.isOpen, closed] at isOpen
  · have front : Carries (sent ++ data.take nwrote) written := by
      rcases direct with ⟨idle, _, direct⟩ | ⟨_, rfl, rfl⟩
      · exact writeDirectly_carries carries idle direct
      · simpa using carries
    rcases rest with ⟨partly, buffered⟩ | ⟨whole, rfl⟩
    · have some : data.drop nwrote ≠ [] := by
        simp only [ne_eq, List.drop_eq_nil_iff]
        omega
      have after := bufferOutput_carries front some buffered
      rwa [List.append_assoc, List.take_append_drop] at after
    · rwa [List.take_of_length_le whole] at front

theorem shutdownInLoop_carries {result : Option Errno} (carries : Carries sent l)
    (success : l.shutdownInLoop result = .ok l') : Carries sent l' := by
  rcases shutdownInLoop_ok success with ⟨_, rfl⟩ | ⟨idle, rfl⟩
  · exact carries
  · obtain ⟨rep, whole⟩ := carries.of_idle idle
    refine ⟨⟨[], rep, ?_, by simpa [observe] using idle⟩, ?_⟩
    · simpa [observe, accepted_append, accepted] using whole
    · intro backlog member
      rcases List.mem_append.mp member with earlier | now
      · exact carries.quiet backlog earlier
      · have backlog_eq : backlog = l.conn.outputBuffer.readableBytes := by simpa using now
        rw [backlog_eq, ← rep.length_eq]
        rfl

/-- The buffer has just been emptied while the channel is still writing. -/
theorem drained_carries {answers : Answers} (rep : l.conn.outputBuffer.Represents [])
    (whole : accepted l.seen = sent) (quiet : ∀ backlog, .shutdownWrite backlog ∈ l.seen → backlog = 0)
    (success : l.drained answers = .ok l') : Carries sent l' := by
  obtain ⟨still, added, reinterested, _, outcome⟩ := drained_ok success
  have stopped : Carries sent (still.output still.conn.outputBuffer added []) := by
    rw [reinterested.effect]
    refine ⟨⟨[], rep, ?_, ?_⟩, ?_⟩
    · simpa [output] using whole
    · have bit := Channel.write_bit_cleared l.conn.channel.events
      simp [output, Channel.isWriting, Channel.updated, bit]
    · simpa [output] using quiet
  rcases outcome with rfl | ⟨_, shut⟩
  · exact stopped
  · exact shutdownInLoop_carries stopped shut

/-- What the socket takes leaves the buffer from the front. -/
theorem handleWrite_carries {answers : Answers} (carries : Carries sent l)
    (success : l.handleWrite answers = .ok l') : Carries sent l' := by
  rcases handleWrite_ok success with ⟨_, rfl⟩ | ⟨writing, n, shorter, _, _, retrieved, outcome⟩
  · exact carries
  · obtain ⟨⟨pending, rep, whole, interest⟩, quiet⟩ := carries
    have enough : n ≤ pending.length := by
      obtain ⟨_, asserted, _⟩ := bind_eq_ok retrieved
      rw [rep.length_eq]
      exact cassert_ok asserted
    have left := (Buffer.retrieve_yields rep enough).of_ok retrieved
    have stream : accepted (l.seen ++ [.accepted (l.conn.outputBuffer.readable.take n)]) ++
        pending.drop n = sent := by
      rw [rep.readable_eq, accepted_append, ← whole]
      simp [accepted]
    rcases outcome with ⟨empty, success⟩ | ⟨more, rfl⟩
    · have nothing : pending.drop n = [] := by
        apply List.eq_nil_of_length_eq_zero
        rw [left.length_eq, empty]
      rw [nothing] at left stream
      exact drained_carries left (by simpa [output] using stream) (by simpa [output] using quiet)
        success
    · refine ⟨⟨pending.drop n, left, by simpa [output] using stream, ?_⟩, ?_⟩
      · have some : pending.drop n ≠ [] := by
          intro nothing
          rw [nothing] at left
          exact more (by simpa using left.length_eq.symm)
        simpa [output, some] using writing
      · simpa [output] using quiet

/-- A change of read interest leaves the write bit alone. -/
theorem reinterested_carries {events : EventMask} (carries : Carries sent l)
    (same : events &&& Channel.kWriteEvent = l.conn.channel.events &&& Channel.kWriteEvent)
    (reinterested : l.Reinterested events l') (reading : Bool) :
    Carries sent { l' with conn := { l'.conn with reading := reading } } := by
  rw [reinterested.effect]
  obtain ⟨⟨pending, rep, whole, interest⟩, quiet⟩ := carries
  refine ⟨⟨pending, rep, whole, ?_⟩, quiet⟩
  rw [← interest]
  simp [Channel.isWriting, Channel.updated, same]

theorem startReadInLoop_carries (carries : Carries sent l)
    (success : l.startReadInLoop = .ok l') : Carries sent l' := by
  unfold startReadInLoop at success
  split at success
  · obtain ⟨enabled, changed, success⟩ := bind_eq_ok success
    cases success
    exact reinterested_carries carries (Channel.write_bit_of_read_set _)
      (onChannel_ok rfl changed) true
  · cases success
    exact carries

theorem stopReadInLoop_carries (carries : Carries sent l)
    (success : l.stopReadInLoop = .ok l') : Carries sent l' := by
  unfold stopReadInLoop at success
  split at success
  · obtain ⟨disabled, changed, success⟩ := bind_eq_ok success
    cases success
    exact reinterested_carries carries (Channel.write_bit_of_read_cleared _)
      (onChannel_ok rfl changed) false
  · cases success
    exact carries

theorem step_carries {past : List Act} {a : Act} (carries : Carries (sentBy past) l)
    (enabled : machine.enabled l a) (stepped : machine.step l a = .ok l') :
    Carries (sentBy (past ++ [a])) l' := by
  rw [sentBy_append]
  cases a with
  | sendInLoop message result =>
    have after := sendInLoop_carries carries enabled.1 stepped
    simpa [sentBy] using after
  | handleWrite answers => simpa [sentBy] using handleWrite_carries carries stepped
  | shutdownInLoop result => simpa [sentBy] using shutdownInLoop_carries carries stepped
  | startReadInLoop => simpa [sentBy] using startReadInLoop_carries carries stepped
  | stopReadInLoop => simpa [sentBy] using stopReadInLoop_carries carries stepped
  | disconnecting =>
    cases stepped
    obtain ⟨intact, quiet⟩ := carries
    exact ⟨by simpa [sentBy, setState] using intact, by simpa [setState] using quiet⟩

theorem Unused.carries (unused : Unused l) : Carries (sentBy []) l := by
  refine ⟨⟨[], unused.empty, ?_, ?_⟩, ?_⟩
  · rw [unused.nothing]
    rfl
  · simp [unused.idle]
  · intro backlog member
    exact absurd member (unused.running backlog)

/-- In every state of every run that starts from a connection that has not sent anything:
the accepted bytes followed by the buffered ones are the messages in call order, the write
interest is on exactly while something is buffered, and every `shutdownWrite` found the
output buffer empty. -/
theorem output_stream_intact {actions : List Act} (unused : Unused l)
    (run : machine.Run l actions l') :
    accepted l'.seen ++ l'.conn.outputBuffer.readable = sentBy actions ∧
    (l'.conn.channel.isWriting = true ↔ l'.conn.outputBuffer.readable ≠ []) ∧
    ∀ backlog, .shutdownWrite backlog ∈ l'.seen → backlog = 0 := by
  have carries : Carries (sentBy ([] ++ actions)) l' :=
    @Machine.Run.history _ _ _ machine (fun past l => Carries (sentBy past) l) _ _ [] _
      (fun _ _ _ _ before enabled stepped => step_carries before enabled stepped)
      unused.carries run
  obtain ⟨⟨pending, rep, whole, interest⟩, quiet⟩ := carries
  rw [rep.readable_eq]
  exact ⟨whole, interest, quiet⟩

/-- A connection on fd 7 that is established over buffers of four bytes. -/
def smallConnection : IoLoop where
  conn := { TcpConnection.new 1 7 true true with
    state := .kConnected
    channel := { Channel.new 1 7 with events := Channel.kReadEvent, index := .kAdded }
    outputBuffer := Buffer.new 4 }
  poller :=
    { channels := Function.update (fun _ => none) 7 (some 1)
      epollSet := Function.update (fun _ => none) 7 (some (Channel.kReadEvent, 1)) }
  pendingFunctors := []
  seen := [.connectionCallback .kConnected]

/-- Three bytes leave in three writes, the first of them direct; the shutdown asked for in
between waits for the last. -/
theorem output_stream_intact_three_writes : ∃ l',
    machine.Run smallConnection
      [.sendInLoop [1, 2, 3] (.wrote 1), .handleWrite ⟨.bytes [], .wrote 1, none⟩, .disconnecting,
        .shutdownInLoop none, .handleWrite ⟨.bytes [], .wrote 1, none⟩] l' ∧
    accepted l'.seen = [1, 2, 3] ∧ .shutdownWrite 0 ∈ l'.seen := by
  have unused : Unused smallConnection :=
    ⟨Buffer.new_represents 4, by decide, rfl, by simp [smallConnection]⟩
  have run : machine.Run smallConnection
      [.sendInLoop [1, 2, 3] (.wrote 1), .handleWrite ⟨.bytes [], .wrote 1, none⟩, .disconnecting,
        .shutdownInLoop none, .handleWrite ⟨.bytes [], .wrote 1, none⟩] _ :=
    .next ⟨rfl, by change 1 ≤ 3; decide⟩ rfl
      (.next ⟨rfl, fun _ => ⟨1, rfl, by decide, by change 1 ≤ 2; decide⟩⟩ rfl
        (.next ⟨rfl, trivial⟩ rfl
          (.next ⟨rfl, trivial⟩ rfl
            (.next ⟨rfl, fun _ => ⟨1, rfl, by decide, by change 1 ≤ 1; decide⟩⟩ rfl (.done _)))))
  refine ⟨_, run, ?_, by decide⟩
  have whole := (output_stream_intact unused run).1
  rw [← List.append_nil (accepted _)]
  exact whole

end Starry.Guarantees.OutputIntegrity
