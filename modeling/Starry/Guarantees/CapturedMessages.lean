import Starry.Guarantees.OutputIntegrity
import Starry.Source.CallerStorage

/-!
# What is sent is what the caller's storage held

A message is sent as it was at the call when the loop thread calls, or when a `Buffer` is sent:
the buffer's contents are taken out at the call. The other two overloads queue a view, and what
enters the output stream is what the view points at when its functor runs.

`sent_as_held_iff` is about every run of calls, queued functors and writes of the callers to their
storage: the runs in which every queued view still shows what it did at its call are the runs in
which the output stream is, in every state, what the storage held at the calls. A view that is
used after the connection is down does no harm, since nothing is sent then.
-/
namespace Starry.Guarantees.CapturedMessages

open Starry.Foundation
open Starry.Foundation.Memory
open Starry.Source
open Starry.Source.CallerStorage
open Starry.Guarantees.OutputIntegrity (accepted accepted_append Carries Unused)

/-- The bytes the kernel has accepted, and those that wait to be written. -/
def stream (l : IoLoop) : List UInt8 := accepted l.seen ++ l.conn.outputBuffer.readable

/-- The output stream is what the callers' storage held at the calls. -/
def SentAsHeld (s : CallerStorage) : Prop := stream s.io = s.due.flatten

/-- The view of the first functor shows what it did at its call, or nothing is sent any more. -/
def FirstUnchanged (s : CallerStorage) : List BoundFunctor → Prop
  | .sendInLoop (.view message) held :: _ =>
    s.io.conn.state = .kDisconnected ∨ s.contents message = held
  | _ => True

def Unchanged (s : CallerStorage) : Act → Prop
  | .runFunctor _ => FirstUnchanged s s.queue
  | _ => True

instance (s : CallerStorage) (queue : List BoundFunctor) : Decidable (FirstUnchanged s queue) :=
  match queue with
  | .sendInLoop (.view _) _ :: _ => inferInstanceAs (Decidable (_ ∨ _))
  | [] | .sendInLoop (.string _) _ :: _ | .other _ :: _ => isTrue trivial

instance (s : CallerStorage) (a : Act) : Decidable (Unchanged s a) :=
  match a with
  | .runFunctor _ => inferInstanceAs (Decidable (FirstUnchanged s s.queue))
  | .send _ _ _ | .shutdown _ _ | .forceClose | .store _ _ | .change _ _ | .handleWrite _
  | .handleClose => isTrue trivial

variable {l l' : IoLoop} {s t : CallerStorage} {sent bytes held : List UInt8}

/-! ## The output stream of an open and of a closed connection -/

/-- The stream of a connection that is up, or went down with the stream as it is. -/
inductive Conveys (sent : List UInt8) (l : IoLoop) : Prop
  | up (isOpen : l.conn.isOpen = true) (carries : Carries sent l)
  | down (closed : l.conn.state = .kDisconnected) (idle : l.conn.channel.isWriting = false)
      (whole : stream l = sent)

/-- The socket has taken the first bytes of what was sent, and the buffer holds the rest. -/
theorem Carries.stream_eq (carries : Carries sent l) : stream l = sent := by
  obtain ⟨⟨pending, rep, whole, _⟩, _⟩ := carries
  rw [stream, rep.readable_eq, whole]

theorem Conveys.stream_eq (conveys : Conveys sent l) : stream l = sent := by
  cases conveys with
  | up _ carries => exact Carries.stream_eq carries
  | down _ _ whole => exact whole

/-- Functors that wait, and observations of another kind, are no part of the stream. -/
theorem Conveys.of_conn (conveys : Conveys sent l) (conn : l'.conn = l.conn)
    (added : ∃ observed, l'.seen = l.seen ++ observed ∧ accepted observed = [] ∧
      ∀ backlog, .shutdownWrite backlog ∉ observed) : Conveys sent l' := by
  obtain ⟨observed, seen, nothing, quiet⟩ := added
  have same : accepted l'.seen = accepted l.seen := by
    rw [seen, accepted_append, nothing, List.append_nil]
  cases conveys with
  | up isOpen carries =>
    obtain ⟨⟨pending, rep, whole, interest⟩, shut⟩ := carries
    refine .up (by rw [conn]; exact isOpen) ⟨⟨pending, ?_, ?_, ?_⟩, ?_⟩
    · rw [conn]
      exact rep
    · rw [same]
      exact whole
    · rw [conn]
      exact interest
    · intro backlog member
      rw [seen, List.mem_append] at member
      rcases member with before | now
      · exact shut backlog before
      · exact absurd now (quiet backlog)
  | down closed idle whole =>
    refine .down (by rw [conn]; exact closed) (by rw [conn]; exact idle) ?_
    rw [stream, same, conn]
    exact whole

theorem Conveys.pending (conveys : Conveys sent l) (pending : List LoopFunctor) :
    Conveys sent { l with pendingFunctors := pending } :=
  conveys.of_conn rfl ⟨[], by simp, rfl, by simp⟩

/-- A function that leaves `state_` alone leaves an open connection open. -/
theorem Conveys.of_aside (isOpen : l.conn.isOpen = true) (aside : l.Aside l')
    (carries : Carries sent l') : Conveys sent l' := by
  refine .up ?_ carries
  rwa [TcpConnection.isOpen, aside.state]

theorem Conveys.sendInLoop {data : List UInt8} {result : WriteResult} (conveys : Conveys sent l)
    (live : l.conn.state ≠ .kDisconnected) (success : l.sendInLoop data result = .ok l') :
    Conveys (sent ++ data) l' := by
  cases conveys with
  | up isOpen carries =>
    exact .of_aside isOpen (IoLoop.sendInLoop_aside success)
      (OutputIntegrity.sendInLoop_carries carries isOpen success)
  | down closed _ _ => exact absurd closed live

theorem Conveys.shutdownInLoop {result : Option Errno} (conveys : Conveys sent l)
    (success : l.shutdownInLoop result = .ok l') : Conveys sent l' := by
  cases conveys with
  | up isOpen carries =>
    exact .of_aside isOpen (IoLoop.shutdownInLoop_aside success)
      (OutputIntegrity.shutdownInLoop_carries carries success)
  | down closed idle whole =>
    rcases IoLoop.shutdownInLoop_ok success with ⟨_, rfl⟩ | ⟨_, rfl⟩
    · exact .down closed idle whole
    · refine .down closed idle ?_
      rw [← whole]
      simp [stream, IoLoop.observe, accepted_append, accepted]

theorem Conveys.disconnecting (conveys : Conveys sent l) (live : l.conn.state ≠ .kDisconnected) :
    Conveys sent (l.setState .kDisconnecting) := by
  cases conveys with
  | up _ carries =>
    obtain ⟨intact, quiet⟩ := carries
    exact .up rfl ⟨by simpa [IoLoop.setState] using intact, by simpa [IoLoop.setState] using quiet⟩
  | down closed _ _ => exact absurd closed live

theorem Conveys.shutdown {inLoopThread : Bool} {result : Option Errno} (conveys : Conveys sent l)
    (success : l.shutdown inLoopThread result = .ok l') : Conveys sent l' := by
  unfold IoLoop.shutdown at success
  split at success
  next connected =>
    have leaving := conveys.disconnecting (by rw [connected]; simp)
    cases inLoopThread with
    | true => exact leaving.shutdownInLoop success
    | false =>
      cases success
      exact leaving.pending _
  next =>
    cases success
    exact conveys

theorem Conveys.forceClose (conveys : Conveys sent l) : Conveys sent l.forceClose := by
  unfold IoLoop.forceClose
  split
  next opened => exact (conveys.disconnecting (by rcases opened with h | h <;> simp [h])).pending _
  next => exact conveys

theorem Conveys.handleWrite {answers : Answers} (conveys : Conveys sent l)
    (success : l.handleWrite answers = .ok l') : Conveys sent l' := by
  cases conveys with
  | up isOpen carries =>
    exact .of_aside isOpen (IoLoop.handleWrite_aside success)
      (OutputIntegrity.handleWrite_carries carries success)
  | down closed idle whole =>
    rcases IoLoop.handleWrite_ok success with ⟨_, rfl⟩ | ⟨writing, _⟩
    · exact .down closed idle whole
    · rw [idle] at writing
      cases writing

theorem Conveys.handleClose (conveys : Conveys sent l) (success : l.handleClose = .ok l') :
    Conveys sent l' := by
  obtain ⟨_, announced⟩ := IoLoop.handleClose_ok success
  rw [announced.effect]
  refine .down rfl (by simp [Channel.isWriting, Channel.updated]) ?_
  rw [← conveys.stream_eq]
  simp [stream, accepted_append, accepted]

/-! ## Steps -/

/-- A string that a functor is bound to was taken out of its buffer at the call. -/
def Copied (queue : List BoundFunctor) : Prop :=
  ∀ message held, .sendInLoop (.string message) held ∈ queue → message = held

/-- The step puts `bytes` into the output stream for calls at which the storage held `held`. -/
structure Enters (s t : CallerStorage) (bytes held : List UInt8) : Prop where
  stream : ∀ sent, Conveys sent s.io → Conveys (sent ++ bytes) t.io
  due : t.due.flatten = s.due.flatten ++ held
  copied : Copied s.queue → Copied t.queue

theorem Enters.aside (io : t.io = s.io) (due : t.due = s.due)
    (copied : Copied s.queue → Copied t.queue) : Enters s t [] [] where
  stream sent conveys := by
    rw [io, List.append_nil]
    exact conveys
  due := by rw [due, List.append_nil]
  copied := copied

/-- Functors that bind no bytes do not matter here. -/
theorem copied_others (functors : List LoopFunctor) (copied : Copied s.queue) :
    Copied (s.queue ++ functors.map .other) := by
  intro message held member
  rcases List.mem_append.mp member with before | now
  · exact copied message held before
  · obtain ⟨functor, _, other⟩ := List.mem_map.mp now
    cases other

/-- A function of the loop that adds `bytes` to the stream, for calls that are noted before it. -/
theorem onLoop_enters {f : IoLoop → Except Abort IoLoop}
    (adds : ∀ sent l', Conveys sent s.io → f s.io = .ok l' → Conveys (sent ++ bytes) l')
    (success : s.onLoop f = .ok t) : Enters s t bytes [] := by
  obtain ⟨l', done, success⟩ := bind_eq_ok success
  cases success
  refine ⟨?_, by simp [collect], copied_others l'.pendingFunctors⟩
  intro sent conveys
  exact (adds sent l' conveys done).pending []

/-- A function that keeps the stream enters nothing. -/
theorem onLoop_enters_nothing {f : IoLoop → Except Abort IoLoop} (success : s.onLoop f = .ok t)
    (keeps : ∀ sent l', Conveys sent s.io → f s.io = .ok l' → Conveys sent l') :
    Enters s t [] [] := by
  refine onLoop_enters ?_ success
  intro sent l' conveys done
  rw [List.append_nil]
  exact keeps sent l' conveys done

/-- What `sendInLoop` sends is what its argument refers to at that time. -/
theorem sendInLoop_enters {data : List UInt8} {result : WriteResult}
    (success : s.sendInLoop data held result = .ok t) :
    (s.io.conn.state = .kDisconnected ∧ Enters s t [] []) ∨
      (s.io.conn.state ≠ .kDisconnected ∧ Enters s t data held) := by
  unfold CallerStorage.sendInLoop at success
  by_cases closed : s.io.conn.state = .kDisconnected
  · rw [noteDue, if_pos closed] at success
    refine .inl ⟨closed, onLoop_enters_nothing success ?_⟩
    intro sent l' conveys done
    rw [IoLoop.sendInLoop, if_pos closed] at done
    cases done
    exact conveys
  · rw [noteDue, if_neg closed] at success
    have enters : Enters { s with due := s.due ++ [held] } t data [] := by
      refine onLoop_enters ?_ success
      intro sent l' conveys done
      exact conveys.sendInLoop closed done
    refine .inr ⟨closed, enters.stream, ?_, enters.copied⟩
    rw [enters.due]
    simp

theorem Enters.setBuffer (enters : Enters s t bytes held) (index : Nat) (buffer : Buffer) :
    Enters s (t.setBuffer index buffer) bytes held :=
  ⟨enters.stream, enters.due, enters.copied⟩

/-- A message that is queued has not entered the stream. -/
theorem queueInLoop_enters {message : BoundArgument}
    (taken : ∀ bytes, message = .string bytes → bytes = held) :
    Enters s (s.queueInLoop (.sendInLoop message held)) [] [] := by
  refine .aside rfl rfl ?_
  intro copied bytes held' member
  rcases List.mem_append.mp member with before | now
  · exact copied bytes held' before
  · cases List.mem_singleton.mp now
    exact taken bytes rfl

/-- The window of a buffer is what is readable in it. -/
theorem window_readable (b : Buffer) :
    window b.buffer b.readerIndex (b.readerIndex + b.readableBytes) = b.readable := by
  unfold window Buffer.readable Buffer.readableBytes window
  congr 1
  omega

/-- A call puts into the stream what the storage holds, or nothing yet. -/
theorem send_enters {inLoopThread : Bool} {result : WriteResult} {message : Message}
    (success : s.send inLoopThread result message = .ok t) : ∃ bytes, Enters s t bytes bytes := by
  have view (message : StringView) (success : s.sendView inLoopThread message result = .ok t) :
      ∃ bytes, Enters s t bytes bytes := by
    unfold sendView at success
    split at success
    · cases inLoopThread with
      | true =>
        rcases sendInLoop_enters success with ⟨_, nothing⟩ | ⟨_, enters⟩
        · exact ⟨_, nothing⟩
        · exact ⟨_, enters⟩
      | false =>
        cases success
        exact ⟨[], queueInLoop_enters (by simp)⟩
    · cases success
      exact ⟨[], .aside rfl rfl id⟩
  cases message with
  | pointer data len => exact view ⟨data, len⟩ success
  | view message => exact view message success
  | buffer index =>
    simp only [CallerStorage.send, sendBuffer] at success
    split at success
    · cases inLoopThread with
      | true =>
        obtain ⟨sent, sending, done⟩ := bind_eq_ok success
        cases done
        rw [window_readable] at sending
        rcases sendInLoop_enters sending with ⟨_, nothing⟩ | ⟨_, enters⟩
        · exact ⟨_, nothing.setBuffer _ _⟩
        · exact ⟨_, enters.setBuffer _ _⟩
      | false =>
        obtain ⟨⟨text, rest⟩, taken, done⟩ := bind_eq_ok success
        cases done
        obtain ⟨_, _, taken⟩ := bind_eq_ok taken
        obtain ⟨_, _, taken⟩ := bind_eq_ok taken
        cases taken
        refine ⟨[], (queueInLoop_enters ?_).setBuffer _ _⟩
        intro bytes same
        cases same
        exact window_readable _
    · cases success
      exact ⟨[], .aside rfl rfl id⟩

/-- A queued functor puts into the stream what its argument shows when it runs. -/
theorem runFunctor_enters {answers : Answers} {functor : BoundFunctor}
    (success : s.runFunctor answers functor = .ok t) :
    (∃ message held, functor = .sendInLoop message held ∧ s.io.conn.state ≠ .kDisconnected ∧
      Enters s t (s.argument message) held) ∨
    ((∀ message held, functor = .sendInLoop message held → s.io.conn.state = .kDisconnected) ∧
      Enters s t [] []) := by
  cases functor with
  | sendInLoop message held =>
    rcases sendInLoop_enters success with ⟨closed, nothing⟩ | ⟨live, enters⟩
    · exact .inr ⟨fun _ _ _ => closed, nothing⟩
    · exact .inl ⟨message, held, rfl, live, enters⟩
  | other functor =>
    refine .inr ⟨by simp, ?_⟩
    cases functor with
    | shutdownInLoop =>
      simp only [CallerStorage.runFunctor] at success
      exact onLoop_enters_nothing success fun _ _ conveys done => conveys.shutdownInLoop done
    | forceCloseInLoop =>
      simp only [CallerStorage.runFunctor] at success
      split at success
      · exact onLoop_enters_nothing success fun _ _ conveys done => conveys.handleClose done
      · cases success
        exact .aside rfl rfl id
    | writeCompleteCallback =>
      cases success
      refine ⟨fun sent conveys => ?_, by simp, id⟩
      rw [List.append_nil]
      exact conveys.of_conn rfl ⟨[.writeCompleteCallback], rfl, rfl, by simp⟩
    | highWaterMarkCallback backlog =>
      cases success
      refine ⟨fun sent conveys => ?_, by simp, id⟩
      rw [List.append_nil]
      exact conveys.of_conn rfl ⟨[.highWaterMarkCallback backlog], rfl, rfl, by simp⟩
    | sendInLoop _ | startReadInLoop | stopReadInLoop | connectDestroyed =>
      cases success
      exact .aside rfl rfl id

theorem Copied.tail {functor : BoundFunctor} {rest : List BoundFunctor}
    (copied : Copied (functor :: rest)) : Copied rest :=
  fun message held member => copied message held (List.mem_cons_of_mem _ member)

/-- What a step puts into the stream is what was held exactly when the step meets `Unchanged`. -/
theorem step_enters {a : Act} (copied : Copied s.queue) (stepped : machine.step s a = .ok t) :
    ∃ bytes held, Enters s t bytes held ∧ (Unchanged s a ↔ bytes = held) := by
  cases a with
  | send inLoopThread message answers =>
    obtain ⟨bytes, enters⟩ := send_enters stepped
    exact ⟨bytes, bytes, enters, by simp [Unchanged]⟩
  | shutdown inLoopThread answers =>
    refine ⟨[], [], ?_, by simp [Unchanged]⟩
    simp only [machine, step] at stepped
    exact onLoop_enters_nothing stepped fun _ _ conveys done => conveys.shutdown done
  | forceClose =>
    refine ⟨[], [], ?_, by simp [Unchanged]⟩
    simp only [machine, step] at stepped
    refine onLoop_enters_nothing stepped fun sent l' conveys done => ?_
    cases done
    exact conveys.forceClose
  | store position data =>
    cases stepped
    exact ⟨[], [], .aside rfl rfl id, by simp [Unchanged]⟩
  | change index buffer =>
    cases stepped
    exact ⟨[], [], .aside rfl rfl id, by simp [Unchanged]⟩
  | handleWrite answers =>
    refine ⟨[], [], ?_, by simp [Unchanged]⟩
    simp only [machine, step] at stepped
    exact onLoop_enters_nothing stepped fun _ _ conveys done => conveys.handleWrite done
  | handleClose =>
    refine ⟨[], [], ?_, by simp [Unchanged]⟩
    simp only [machine, step] at stepped
    exact onLoop_enters_nothing stepped fun _ _ conveys done => conveys.handleClose done
  | runFunctor answers =>
    cases queued : s.queue with
    | nil =>
      simp only [machine, step, queued] at stepped
      cases stepped
      exact ⟨[], [], .aside rfl rfl id, by simp [Unchanged, FirstUnchanged, queued]⟩
    | cons functor rest =>
      simp only [machine, step, queued] at stepped
      have shorter {bytes held : List UInt8} (enters : Enters { s with queue := rest } t bytes held) :
          Enters s t bytes held := by
        refine ⟨enters.stream, enters.due, fun copied => enters.copied ?_⟩
        rw [queued] at copied
        exact copied.tail
      rcases runFunctor_enters stepped with ⟨message, held, rfl, live, enters⟩ | ⟨closed, nothing⟩
      · refine ⟨_, held, shorter enters, ?_⟩
        cases message with
        | view message => simp [Unchanged, FirstUnchanged, queued, live, argument, contents]
        | string message =>
          have taken : message = held := copied message held (by rw [queued]; exact List.mem_cons_self)
          simp [Unchanged, FirstUnchanged, queued, argument, taken]
      · refine ⟨[], [], shorter nothing, ?_⟩
        simp only [Unchanged, queued, iff_true]
        unfold FirstUnchanged
        split
        next message held rest' same =>
          cases same
          exact .inl (closed _ _ rfl)
        next => trivial

/-! ## Every run -/

structure Inv (s : CallerStorage) : Prop where
  conveys : Conveys s.due.flatten s.io
  copied : Copied s.queue

/-- Of a connection that has sent nothing yet: the runs in which every queued view still shows, when
its functor runs, what it showed at its call are the runs in which the output stream always is
what the callers' storage held. -/
theorem sent_as_held_iff {io : IoLoop} {memory : List UInt8} {buffers : Nat → Buffer}
    {actions : List Act} (unused : Unused io) (isOpen : io.conn.isOpen = true) :
    (machine.restrict Unchanged).Run (of io memory buffers) actions t ↔
      (machine.ensuring fun _ _ t => SentAsHeld t).Run (of io memory buffers) actions t := by
  have start : Inv (of io memory buffers) := by
    refine ⟨.up isOpen ?_, by simp [Copied, of]⟩
    exact unused.carries
  refine @Machine.restrict_iff_ensuring _ _ _ machine _ _ Inv _ _ _ ?_ ?_ start
  · intro s a t inv _ stepped
    obtain ⟨bytes, held, enters, met_iff⟩ := step_enters inv.copied stepped
    have after := (enters.stream _ inv.conveys).stream_eq
    rw [met_iff, SentAsHeld, after, enters.due]
    exact (List.append_right_inj _).symm
  · intro s a t inv _ unchanged stepped
    obtain ⟨bytes, held, enters, met_iff⟩ := step_enters inv.copied stepped
    have same := met_iff.mp unchanged
    refine ⟨?_, enters.copied inv.copied⟩
    rw [enters.due, ← same]
    exact enters.stream _ inv.conveys

/-- A buffer with one readable byte. -/
def byteBuffer (byte : UInt8) : Buffer :=
  { Buffer.new 4 with buffer := store (Buffer.new 4).buffer 8 [byte], writerIndex := 9 }

theorem smallConnection_unused : Unused OutputIntegrity.smallConnection :=
  ⟨Buffer.new_represents 4, by decide, rfl, by simp [OutputIntegrity.smallConnection]⟩

/-- Another thread sends two bytes of its memory and a buffer, uses the buffer for something else
and writes next to the two bytes, before the loop runs the functors. -/
theorem sent_as_held_iff_two_overloads : ∃ t,
    (machine.ensuring fun _ _ t => SentAsHeld t).Run
      (of OutputIntegrity.smallConnection [1, 2, 3] fun _ => byteBuffer 9)
      [.send false (.view ⟨0, 2⟩) ⟨.bytes [], .wrote 0, none⟩,
        .send false (.buffer 0) ⟨.bytes [], .wrote 0, none⟩, .change 0 (byteBuffer 5), .store 2 [7],
        .runFunctor ⟨.bytes [], .wrote 1, none⟩, .runFunctor ⟨.bytes [], .wrote 0, none⟩] t ∧
    stream t.io = [1, 2, 9] := by
  obtain ⟨t, run, holds⟩ := (machine.restrict Unchanged).exists_run_of_exec
    (of OutputIntegrity.smallConnection [1, 2, 3] fun _ => byteBuffer 9)
    [.send false (.view ⟨0, 2⟩) ⟨.bytes [], .wrote 0, none⟩,
      .send false (.buffer 0) ⟨.bytes [], .wrote 0, none⟩, .change 0 (byteBuffer 5), .store 2 [7],
      .runFunctor ⟨.bytes [], .wrote 1, none⟩, .runFunctor ⟨.bytes [], .wrote 0, none⟩]
    (fun t => decide (stream t.io = [1, 2, 9])) (by decide +kernel)
  exact ⟨t, (sent_as_held_iff smallConnection_unused rfl).mp run, of_decide_eq_true holds⟩

/-- Another thread sends two bytes of its memory and overwrites the first of them before the loop
runs the functor. -/
theorem overwritten_before_sent : ∃ t,
    machine.Run (of OutputIntegrity.smallConnection [1, 2, 3] fun _ => byteBuffer 9)
      [.send false (.view ⟨0, 2⟩) ⟨.bytes [], .wrote 0, none⟩, .store 0 [7],
        .runFunctor ⟨.bytes [], .wrote 2, none⟩] t ∧
    t.due = [[1, 2]] ∧ stream t.io = [7, 2] ∧ ¬SentAsHeld t := by
  obtain ⟨t, run, holds⟩ := machine.exists_run_of_exec
    (of OutputIntegrity.smallConnection [1, 2, 3] fun _ => byteBuffer 9)
    [.send false (.view ⟨0, 2⟩) ⟨.bytes [], .wrote 0, none⟩, .store 0 [7],
      .runFunctor ⟨.bytes [], .wrote 2, none⟩]
    (fun t => decide (t.due = [[1, 2]] ∧ stream t.io = [7, 2])) (by decide +kernel)
  obtain ⟨due, sent⟩ := of_decide_eq_true holds
  refine ⟨t, run, due, sent, ?_⟩
  rw [SentAsHeld, due, sent]
  decide

end Starry.Guarantees.CapturedMessages
