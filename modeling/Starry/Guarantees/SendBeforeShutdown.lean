import Mathlib.Data.List.Perm.Subperm
import Starry.Guarantees.OutputIntegrity
import Starry.Source.ConnectionThreads

/-!
# What was sent before a shutdown goes out before it

`shutdown` runs at once in the loop thread and is queued from any other thread; so is
`send`. A queued message is overtaken by a `shutdown` of the loop thread, and a message
whose `send` has passed the test of `state_` but not reached `queueInLoop` is overtaken by a
`shutdown` of any thread. It is then written after `shutdownWrite`.

`sent_before_shutdown` is about the runs in which no message is on its way when
`shutdownWrite` is called, whatever the order of the calls and the sizes of the writes;
`message_overtaken` is a run in which one is.
-/
namespace Starry.Guarantees.SendBeforeShutdown

open Starry.Foundation
open Starry.Source
open Starry.Source.SharedConnection
open Starry.Guarantees.OutputIntegrity (accepted accepted_append Carries Unused)

def isShutdownWrite : Observation → Bool
  | .shutdownWrite _ => true
  | _ => false

/-- What was observed before the first `shutdownWrite`. -/
def beforeShutdown (seen : List Observation) : List Observation :=
  seen.takeWhile fun observation => !isShutdownWrite observation

def Shut (s : SharedConnection) : Prop := ∃ observation ∈ s.io.seen, isShutdownWrite observation = true

/-- The step calls `write(2)`, whatever the kernel answers. -/
def CallsWrite (s : SharedConnection) : Act → Prop
  | .sendInLoopThread _ _ => s.io.conn.state = .kConnected ∧
    s.io.conn.channel.isWriting = false ∧ s.io.conn.outputBuffer.readableBytes = 0
  | .runFunctor _ => ∃ message, s.io.pendingFunctors.head? = some (.sendInLoop message) ∧
    s.io.conn.state ≠ .kDisconnected ∧
    s.io.conn.channel.isWriting = false ∧ s.io.conn.outputBuffer.readableBytes = 0
  | .handleWrite _ => s.io.conn.channel.isWriting = true
  | _ => False

/-- The messages sent before any call of `shutdown` are among those given to `sendInLoop`,
all of which were accepted before `shutdownWrite`; no step of `M` writes after it. -/
structure SentBeforeShutdown (M : Machine SharedConnection Act Abort) (s : SharedConnection) :
    Prop where
  given : Shut s → s.early.Subperm s.given
  complete : Shut s → accepted (beforeShutdown s.io.seen) = s.given.flatten
  silent : Shut s → ∀ a, M.enabled s a → ¬CallsWrite s a

def CallsShutdownWrite (s : SharedConnection) : Act → Prop
  | .shutdownInLoopThread _ => s.io.conn.state = .kConnected ∧ s.io.conn.channel.isWriting = false
  | .runFunctor _ => s.io.pendingFunctors.head? = some .shutdownInLoop ∧
    s.io.conn.channel.isWriting = false
  | .handleWrite answers => s.io.conn.channel.isWriting = true ∧
    s.io.conn.state = .kDisconnecting ∧
    answers.write = .wrote s.io.conn.outputBuffer.readableBytes
  | _ => False

def sendOf : LoopFunctor → Option (List UInt8)
  | .sendInLoop message => some message
  | _ => none

/-- The messages waiting in `pendingFunctors_`. -/
def queuedSends (pending : List LoopFunctor) : List (List UInt8) := pending.filterMap sendOf

/-- No message is queued, or on its way into the queue, when `shutdownWrite` is called. -/
def InOrder (s : SharedConnection) (a : Act) : Prop :=
  CallsShutdownWrite s a → queuedSends s.io.pendingFunctors = [] ∧ s.sends = []

instance (s : SharedConnection) (a : Act) : Decidable (CallsShutdownWrite s a) :=
  match a with
  | .shutdownInLoopThread _ | .runFunctor _ | .handleWrite _ => inferInstanceAs (Decidable (_ ∧ _))
  | .sendInLoopThread _ _ | .send _ | .queueSend _ | .shutdown | .setDisconnecting _
  | .queueShutdown _ => isFalse id

instance (s : SharedConnection) (a : Act) : Decidable (InOrder s a) :=
  inferInstanceAs (Decidable (_ → _))

/-- A connection that has just been established. -/
structure Established (io : IoLoop) : Prop where
  unused : Unused io
  connected : io.conn.state = .kConnected
  pending : io.pendingFunctors = []

/-! ## What the output path emits -/

/-- The observations of a function that queues no message and no shutdown. -/
structure Emits (l l' : IoLoop) (observed : List Observation) : Prop where
  seen : l'.seen = l.seen ++ observed
  state : l'.conn.state = l.conn.state
  sends : queuedSends l'.pendingFunctors = queuedSends l.pendingFunctors
  shutdowns : .shutdownInLoop ∈ l'.pendingFunctors ↔ .shutdownInLoop ∈ l.pendingFunctors

variable {l l' : IoLoop} {sent : List UInt8}

theorem Emits.refl (l : IoLoop) : Emits l l [] :=
  ⟨by simp, rfl, rfl, Iff.rfl⟩

/-- What two functions emit, one after the other. -/
theorem Emits.trans {l'' : IoLoop} {first second : List Observation} (before : Emits l l' first)
    (after : Emits l' l'' second) : Emits l l'' (first ++ second) where
  seen := by rw [after.seen, before.seen, List.append_assoc]
  state := after.state.trans before.state
  sends := after.sends.trans before.sends
  shutdowns := after.shutdowns.trans before.shutdowns

theorem Emits.isOpen {observed : List Observation} (emits : Emits l l' observed)
    (opened : l.conn.isOpen = true) : l'.conn.isOpen = true := by
  rwa [TcpConnection.isOpen, ← emits.state] at opened

/-- Neither a message nor a shutdown. -/
def Notice (functor : LoopFunctor) : Prop :=
  sendOf functor = none ∧ functor ≠ .shutdownInLoop

/-- The output path emits what it hands to the socket, and queues notices. -/
theorem output_emits (l : IoLoop) (buffer : Buffer) {added : List LoopFunctor}
    (observed : List Observation) (notices : ∀ functor ∈ added, Notice functor) :
    Emits l (l.output buffer added observed) observed := by
  have none : queuedSends added = [] := by
    rw [queuedSends, List.filterMap_eq_nil_iff]
    exact fun functor member => (notices functor member).1
  have absent : .shutdownInLoop ∉ added := fun member => (notices _ member).2 rfl
  refine ⟨rfl, rfl, ?_, ?_⟩
  · simp only [queuedSends, IoLoop.output, List.filterMap_append] at none ⊢
    rw [none, List.append_nil]
  · simp [IoLoop.output, absent]

theorem observe_emits (l : IoLoop) (observation : Observation) :
    Emits l (l.observe observation) [observation] :=
  ⟨rfl, rfl, rfl, Iff.rfl⟩

theorem reinterested_emits {events : EventMask} (changed : l.Reinterested events l') :
    Emits l l' [] := by
  rw [changed.effect]
  exact ⟨by simp, rfl, rfl, Iff.rfl⟩

/-- Nothing reaches the socket by way of the output buffer. -/
theorem bufferOutput_emits {rest : List UInt8} (success : l.bufferOutput rest = .ok l') :
    Emits l l' [] := by
  obtain ⟨longer, added, _, marks, outcome⟩ := IoLoop.bufferOutput_ok success
  have noted : Emits l (l.output longer added []) [] := by
    refine output_emits l longer [] fun functor member => ?_
    obtain ⟨backlog, rfl⟩ := marks functor member
    exact ⟨rfl, by simp⟩
  rcases outcome with ⟨_, rfl⟩ | ⟨_, changed⟩
  · exact noted
  · exact noted.trans (reinterested_emits changed)

theorem writeDirectly_emits {data : List UInt8} {result : WriteResult} {nwrote : Nat}
    (success : l.writeDirectly data result = .ok (l', nwrote)) :
    ∃ observed, Emits l l' observed ∧ ∀ o ∈ observed, isShutdownWrite o = false := by
  rcases IoLoop.writeDirectly_ok success with ⟨_, rfl⟩ | ⟨_, added, completes, rfl⟩
  · exact ⟨[], .refl l', by simp⟩
  · refine ⟨_, output_emits l _ _ fun functor member => ?_, by simp [isShutdownWrite]⟩
    rw [completes functor member]
    exact ⟨rfl, by simp⟩

theorem sendInLoop_emits {data : List UInt8} {result : WriteResult}
    (success : l.sendInLoop data result = .ok l') :
    ∃ observed, Emits l l' observed ∧ ∀ o ∈ observed, isShutdownWrite o = false := by
  rcases IoLoop.sendInLoop_ok success with ⟨_, rfl⟩ | ⟨_, written, nwrote, direct, rest⟩
  · exact ⟨[], .refl l', by simp⟩
  · have front : ∃ observed, Emits l written observed ∧
        ∀ o ∈ observed, isShutdownWrite o = false := by
      rcases direct with ⟨_, _, direct⟩ | ⟨_, rfl, _⟩
      · exact writeDirectly_emits direct
      · exact ⟨[], .refl written, by simp⟩
    obtain ⟨observed, emits, plain⟩ := front
    rcases rest with ⟨_, buffered⟩ | ⟨_, rfl⟩
    · exact ⟨observed ++ [], emits.trans (bufferOutput_emits buffered), by simpa using plain⟩
    · exact ⟨observed, emits, plain⟩

/-- `shutdownInLoop` calls `shutdownWrite` if the channel is not writing. -/
theorem shutdownInLoop_emits {result : Option Errno} (success : l.shutdownInLoop result = .ok l') :
    (l.conn.channel.isWriting = true ∧ l' = l) ∨
    (l.conn.channel.isWriting = false ∧ l'.conn.channel.isWriting = false ∧
      ∃ backlog, Emits l l' [.shutdownWrite backlog]) := by
  rcases IoLoop.shutdownInLoop_ok success with ⟨writing, rfl⟩ | ⟨idle, rfl⟩
  · exact .inl ⟨writing, rfl⟩
  · exact .inr ⟨idle, idle, _, observe_emits l _⟩

/-- `handleWrite` emptied the buffer of a connection in `kDisconnecting`. -/
structure Finished (l : IoLoop) (answers : Answers) (l' : IoLoop) : Prop where
  closing : l.conn.state = .kDisconnecting
  whole : answers.write = .wrote l.conn.outputBuffer.readableBytes
  idle : l'.conn.channel.isWriting = false
  emits : ∃ bytes backlog, Emits l l' [.accepted bytes, .shutdownWrite backlog]

/-- `handleWrite` shuts down only when it has drained the buffer. -/
theorem handleWrite_emits {answers : Answers} (carries : Carries sent l)
    (success : l.handleWrite answers = .ok l') :
    l' = l ∨ (l.conn.channel.isWriting = true ∧
      ((∃ bytes, Emits l l' [.accepted bytes]) ∨ Finished l answers l')) := by
  rcases IoLoop.handleWrite_ok success with
    ⟨_, rfl⟩ | ⟨writing, n, shorter, wrote, _, retrieved, outcome⟩
  · exact .inl rfl
  · refine .inr ⟨writing, ?_⟩
    have taken : Emits l (l.output shorter [] [.accepted (l.conn.outputBuffer.readable.take n)])
        [.accepted (l.conn.outputBuffer.readable.take n)] := output_emits l shorter _ (by simp)
    rcases outcome with ⟨empty, drained⟩ | ⟨_, rfl⟩
    · obtain ⟨quiet, added, changed, completes, outcome⟩ := IoLoop.drained_ok drained
      have noted : Emits l (quiet.output quiet.conn.outputBuffer added [])
          [.accepted (l.conn.outputBuffer.readable.take n)] := by
        refine taken.trans ((reinterested_emits changed).trans
          (output_emits quiet _ [] fun functor member => ?_))
        rw [completes functor member]
        exact ⟨rfl, by simp⟩
      rcases outcome with rfl | ⟨closing, shut⟩
      · exact .inl ⟨_, noted⟩
      · rcases shutdownInLoop_emits shut with ⟨_, rfl⟩ | ⟨_, idle, backlog, emits⟩
        · exact .inl ⟨_, noted⟩
        · refine .inr ⟨closing, ?_, idle, _, backlog, noted.trans emits⟩
          obtain ⟨pending, rep, _⟩ := carries.intact
          obtain ⟨_, asserted, _⟩ := bind_eq_ok retrieved
          have enough := cassert_ok asserted
          have left := (Buffer.retrieve_yields rep (by rw [rep.length_eq]; exact enough)).of_ok
            retrieved
          have nothing : (pending.drop n).length = 0 := by rw [left.length_eq, empty]
          rw [List.length_drop, rep.length_eq] at nothing
          rw [wrote, Nat.le_antisymm enough (Nat.sub_eq_zero_iff_le.mp nothing)]
    · exact .inl ⟨_, taken⟩

/-! ## The invariant -/

/-- After `shutdownWrite` nothing is left to write. -/
structure Quiet (held : List (List UInt8)) (s : SharedConnection) : Prop where
  state : s.io.conn.state = .kDisconnecting
  hand : held = []
  queued : queuedSends s.io.pendingFunctors = []
  sends : s.sends = []
  idle : s.io.conn.channel.isWriting = false
  complete : accepted (beforeShutdown s.io.seen) = s.given.flatten

/-- Between the steps `held` is empty; inside a step it is the message in the hand of the
thread that takes the step. -/
structure Inv (held : List (List UInt8)) (s : SharedConnection) : Prop where
  isOpen : s.io.conn.isOpen = true
  carries : Carries s.given.flatten s.io
  early : s.early.Subperm (s.given ++ (held ++ (queuedSends s.io.pendingFunctors ++ s.sends)))
  closing : .shutdownInLoop ∈ s.io.pendingFunctors ∨ .stored ∈ s.shutdowns →
    s.io.conn.state = .kDisconnecting
  shut : Shut s → Quiet held s

variable {s : SharedConnection} {held : List (List UInt8)} {message : List UInt8}

theorem queuedSends_append (first second : List LoopFunctor) :
    queuedSends (first ++ second) = queuedSends first ++ queuedSends second :=
  List.filterMap_append

/-- Up to the first `shutdownWrite` everything counts. -/
theorem beforeShutdown_of_open {seen observed : List Observation}
    (running : ∀ o ∈ seen, isShutdownWrite o = false) :
    beforeShutdown (seen ++ observed) = seen ++ beforeShutdown observed :=
  List.takeWhile_append_of_pos (by simpa using running)

theorem beforeShutdown_of_shut {seen observed : List Observation}
    (shut : ∃ o ∈ seen, isShutdownWrite o = true) :
    beforeShutdown (seen ++ observed) = beforeShutdown seen := by
  unfold beforeShutdown
  induction seen with
  | nil => simp at shut
  | cons o seen ih =>
    cases first : isShutdownWrite o with
    | true => simp [first]
    | false =>
      have later : ∃ o ∈ seen, isShutdownWrite o = true := by simpa [first] using shut
      simp [first, ih later]

/-- In `kConnected` the socket has not been shut down. -/
theorem Inv.connected_open (inv : Inv held s) (connected : s.io.conn.state = .kConnected) :
    ¬Shut s := by
  intro shut
  have state := (inv.shut shut).state
  rw [connected] at state
  cases state

/-- A function of the output path ran without `shutdownWrite`. -/
theorem Inv.emit {io : IoLoop} {observed : List Observation} (inv : Inv held s)
    (emits : Emits s.io io observed) (carries : Carries s.given.flatten io)
    (plain : ∀ o ∈ observed, isShutdownWrite o = false)
    (idle : Shut s → io.conn.channel.isWriting = false) : Inv held { s with io := io } where
  isOpen := emits.isOpen inv.isOpen
  carries := carries
  early := by
    dsimp only
    rw [emits.sends]
    exact inv.early
  closing := by
    dsimp only
    rw [emits.shutdowns, emits.state]
    exact inv.closing
  shut := by
    rintro ⟨o, member, shutdown⟩
    dsimp only at member
    rw [emits.seen] at member
    have before : Shut s := by
      rcases List.mem_append.mp member with earlier | now
      · exact ⟨o, earlier, shutdown⟩
      · rw [plain o now] at shutdown
        cases shutdown
    have quiet := inv.shut before
    refine ⟨emits.state.trans quiet.state, quiet.hand, emits.sends.trans quiet.queued, quiet.sends,
      idle before, ?_⟩
    dsimp only
    rw [emits.seen, beforeShutdown_of_shut before]
    exact quiet.complete

/-- `shutdownWrite` was called, with nothing on its way. -/
theorem Inv.emit_shutdown {io : IoLoop} {backlog : Nat} (inv : Inv [] s) (front : List Observation)
    (emits : Emits s.io io (front ++ [.shutdownWrite backlog]))
    (plain : ∀ o ∈ front, isShutdownWrite o = false) (carries : Carries s.given.flatten io)
    (idle : io.conn.channel.isWriting = false) (closing : s.io.conn.state = .kDisconnecting)
    (ordered : queuedSends s.io.pendingFunctors = [] ∧ s.sends = []) :
    Inv [] { s with io := io } where
  isOpen := emits.isOpen inv.isOpen
  carries := carries
  early := by
    dsimp only
    rw [emits.sends]
    exact inv.early
  closing := fun _ => emits.state.trans closing
  shut := by
    intro _
    refine ⟨emits.state.trans closing, rfl, emits.sends.trans ordered.1, ordered.2, idle, ?_⟩
    dsimp only
    rw [emits.seen]
    by_cases shut : Shut s
    · rw [beforeShutdown_of_shut shut]
      exact (inv.shut shut).complete
    · have running : ∀ o ∈ s.io.seen ++ front, isShutdownWrite o = false := by
        intro o member
        rcases List.mem_append.mp member with earlier | now
        · by_contra shutdown
          exact shut ⟨o, earlier, by simpa using shutdown⟩
        · exact plain o now
      have all := (carries.of_idle idle).2
      rw [emits.seen, ← List.append_assoc, accepted_append] at all
      rw [← List.append_assoc, beforeShutdown_of_open running]
      simpa [accepted, beforeShutdown, isShutdownWrite] using all

/-! ## The functions of the connection -/

theorem Inv.sendInLoop {result : WriteResult} {s' : SharedConnection} (inv : Inv [message] s)
    (success : s.sendInLoop message result = .ok s') : Inv [] s' := by
  obtain ⟨io, ran, success⟩ := bind_eq_ok success
  cases success
  have running : ¬Shut s := fun shut => by cases (inv.shut shut).hand
  obtain ⟨observed, emits, plain⟩ := sendInLoop_emits ran
  refine ⟨emits.isOpen inv.isOpen, ?_, ?_, ?_, ?_⟩
  · have after := OutputIntegrity.sendInLoop_carries inv.carries inv.isOpen ran
    simpa using after
  · have early := inv.early
    dsimp only
    rw [emits.sends]
    simpa using early
  · dsimp only
    rw [emits.shutdowns, emits.state]
    exact inv.closing
  · rintro ⟨o, member, shutdown⟩
    dsimp only at member
    rw [emits.seen] at member
    rcases List.mem_append.mp member with earlier | now
    · exact absurd ⟨o, earlier, shutdown⟩ running
    · rw [plain o now] at shutdown
      cases shutdown

/-- With no message on the way, all that was sent is in the stream when the socket is shut. -/
theorem Inv.shutdownInLoop {result : Option Errno} {io : IoLoop} (inv : Inv [] s)
    (closing : s.io.conn.state = .kDisconnecting)
    (ordered : s.io.conn.channel.isWriting = false →
      queuedSends s.io.pendingFunctors = [] ∧ s.sends = [])
    (success : s.io.shutdownInLoop result = .ok io) : Inv [] { s with io := io } := by
  have carries := OutputIntegrity.shutdownInLoop_carries inv.carries success
  rcases shutdownInLoop_emits success with ⟨_, rfl⟩ | ⟨idle, after, backlog, emits⟩
  · exact inv
  · exact inv.emit_shutdown [] emits (by simp) carries after closing (ordered idle)

theorem Inv.handleWrite {answers : Answers} {io : IoLoop} (inv : Inv [] s)
    (ordered : InOrder s (.handleWrite answers)) (success : s.io.handleWrite answers = .ok io) :
    Inv [] { s with io := io } := by
  have carries := OutputIntegrity.handleWrite_carries inv.carries success
  rcases handleWrite_emits inv.carries success with rfl | ⟨writing, ⟨bytes, emits⟩ | finished⟩
  · exact inv
  · refine inv.emit emits carries (by simp [isShutdownWrite]) fun shut => ?_
    have idle := (inv.shut shut).idle
    rw [writing] at idle
    cases idle
  · obtain ⟨closing, whole, idle, bytes, backlog, emits⟩ := finished
    exact inv.emit_shutdown [.accepted bytes] emits (by simp [isShutdownWrite]) carries
      idle closing (ordered ⟨writing, closing, whole⟩)

theorem Inv.disconnect (inv : Inv held s) :
    Inv held { s with io := s.io.setState .kDisconnecting } := by
  obtain ⟨_, carries, early, _, shut⟩ := inv
  refine ⟨rfl, ⟨carries.intact, carries.quiet⟩, early, fun _ => rfl, fun now => ?_⟩
  obtain ⟨_, hand, queued, sends, idle, complete⟩ := shut now
  exact ⟨rfl, hand, queued, sends, idle, complete⟩

/-! ## The calls -/

/-- A message that passes the test of `kConnected` is early. -/
theorem Inv.noteEarly (inv : Inv [] s) (connected : s.io.conn.state = .kConnected)
    (message : List UInt8) : Inv [message] (s.noteEarly message) := by
  have running := inv.connected_open connected
  obtain ⟨isOpen, carries, early, closing, _⟩ := inv
  unfold SharedConnection.noteEarly
  have moved : (s.given ++ ([] ++ (queuedSends s.io.pendingFunctors ++ s.sends)) ++
      [message]).Perm (s.given ++ ([message] ++ (queuedSends s.io.pendingFunctors ++ s.sends))) := by
    rw [List.append_assoc]
    exact (List.perm_append_comm).append_left s.given
  split
  · refine ⟨isOpen, carries, ?_, closing, fun shut => absurd shut running⟩
    exact moved.subperm_left.mp (early.trans (List.sublist_append_left _ _).subperm)
  · refine ⟨isOpen, carries, ?_, closing, fun shut => absurd shut running⟩
    exact moved.subperm_left.mp ((List.subperm_append_right [message]).mpr early)

/-- The message in hand goes to where other threads wait. -/
theorem Inv.send (inv : Inv [message] s) : Inv [] { s with sends := s.sends ++ [message] } := by
  have running : ¬Shut s := fun shut => by cases (inv.shut shut).hand
  refine ⟨inv.isOpen, inv.carries, ?_, inv.closing, fun shut => absurd shut running⟩
  have moved : ([message] ++ (queuedSends s.io.pendingFunctors ++ s.sends)).Perm
      ([] ++ (queuedSends s.io.pendingFunctors ++ (s.sends ++ [message]))) := by
    rw [List.nil_append, ← List.append_assoc _ s.sends]
    exact List.perm_append_comm
  exact (moved.append_left s.given).subperm_left.mp inv.early

/-- A thread takes its message to `queueInLoop`. -/
theorem Inv.takeSend {index : Nat} (inv : Inv [] s) (found : s.sends[index]? = some message) :
    Inv [message] { s with sends := s.sends.eraseIdx index } := by
  obtain ⟨inside, at_index⟩ := List.getElem?_eq_some_iff.mp found
  refine ⟨inv.isOpen, inv.carries, ?_, inv.closing, fun shut => ?_⟩
  · have taken : (message :: s.sends.eraseIdx index).Perm s.sends := by
      rw [← at_index]
      exact List.getElem_cons_eraseIdx_perm inside
    have moved : ([] ++ (queuedSends s.io.pendingFunctors ++ s.sends)).Perm
        ([message] ++ (queuedSends s.io.pendingFunctors ++ s.sends.eraseIdx index)) :=
      (taken.symm.append_left _).trans List.perm_middle
    exact (moved.append_left s.given).subperm_left.mp inv.early
  · have none := (inv.shut shut).sends
    rw [none] at inside
    cases inside

theorem Inv.queueSend (inv : Inv [message] s) :
    Inv [] { s with io := s.io.queueInLoop (.sendInLoop message) } := by
  have running : ¬Shut s := fun shut => by cases (inv.shut shut).hand
  refine ⟨inv.isOpen, ⟨inv.carries.intact, inv.carries.quiet⟩, ?_, ?_, fun shut => absurd shut running⟩
  · have moved : ([message] ++ (queuedSends s.io.pendingFunctors ++ s.sends)).Perm
        ([] ++ (queuedSends (s.io.pendingFunctors ++ [.sendInLoop message]) ++ s.sends)) := by
      have last : queuedSends [.sendInLoop message] = [message] := rfl
      rw [queuedSends_append, last, List.append_assoc, List.nil_append]
      simp only [List.singleton_append]
      exact List.perm_middle.symm
    exact (moved.append_left s.given).subperm_left.mp inv.early
  · intro waiting
    refine inv.closing (waiting.imp_left ?_)
    simp [IoLoop.queueInLoop]

/-- `shutdownInLoop` is queued in `kDisconnecting`. -/
theorem Inv.queueShutdown {index : Nat} (inv : Inv [] s)
    (stored : s.shutdowns[index]? = some .stored) :
    Inv [] { s with
      io := s.io.queueInLoop .shutdownInLoop, shutdowns := s.shutdowns.eraseIdx index } := by
  have state := inv.closing (.inr (List.mem_of_getElem? stored))
  have same : queuedSends (s.io.pendingFunctors ++ [.shutdownInLoop]) =
      queuedSends s.io.pendingFunctors := by
    rw [queuedSends_append]
    exact List.append_nil _
  refine ⟨inv.isOpen, ⟨inv.carries.intact, inv.carries.quiet⟩, ?_, fun _ => state, fun shut => ?_⟩
  · dsimp only [IoLoop.queueInLoop]
    rw [same]
    exact inv.early
  · obtain ⟨_, hand, queued, sends, idle, complete⟩ := inv.shut shut
    exact ⟨state, hand, same.trans queued, sends, idle, complete⟩

theorem Inv.stages {shutdowns : List ShutdownStage} (inv : Inv [] s)
    (closing : .stored ∈ shutdowns → s.io.conn.state = .kDisconnecting) (called : Bool) :
    Inv [] { s with called := called, shutdowns := shutdowns } := by
  refine ⟨inv.isOpen, inv.carries, inv.early, fun waiting => ?_, fun shut => ?_⟩
  · exact waiting.elim (fun queued => inv.closing (.inl queued)) closing
  · obtain ⟨state, hand, queued, sends, idle, complete⟩ := inv.shut shut
    exact ⟨state, hand, queued, sends, idle, complete⟩

/-! ## The queue -/

/-- The first functor is taken off the queue; a message comes into the hand of the loop. -/
theorem Inv.pop {functor : LoopFunctor} {rest : List LoopFunctor} (inv : Inv [] s)
    (front : s.io.pendingFunctors = functor :: rest) :
    Inv (sendOf functor).toList { s with io := { s.io with pendingFunctors := rest } } := by
  have split : queuedSends s.io.pendingFunctors = (sendOf functor).toList ++ queuedSends rest := by
    rw [front, queuedSends, List.filterMap_cons]
    cases sendOf functor with
    | none => rfl
    | some message => rfl
  obtain ⟨isOpen, carries, early, closing, shut⟩ := inv
  refine ⟨isOpen, ⟨carries.intact, carries.quiet⟩, ?_, fun waiting => ?_, fun now => ?_⟩
  · rw [split, List.nil_append, List.append_assoc] at early
    exact early
  · refine closing (waiting.imp_left fun queued => ?_)
    rw [front]
    exact .tail functor queued
  · obtain ⟨state, _, queued, sends, idle, complete⟩ := shut now
    rw [split, List.append_eq_nil_iff] at queued
    exact ⟨state, queued.1, queued.2, sends, idle, complete⟩

theorem Inv.observe {observation : Observation} (inv : Inv [] s)
    (other : isShutdownWrite observation = false) (silent : accepted [observation] = []) :
    Inv [] { s with io := s.io.observe observation } := by
  have plain : ∀ o ∈ [observation], isShutdownWrite o = false := by simpa using other
  refine inv.emit (observe_emits s.io observation) ⟨?_, ?_⟩ plain fun shut => (inv.shut shut).idle
  · simpa [IoLoop.observe, accepted_append, silent] using inv.carries.intact
  · intro backlog member
    rcases List.mem_append.mp member with earlier | now
    · exact inv.carries.quiet backlog earlier
    · rw [← List.mem_singleton.mp now] at other
      cases other

theorem Inv.runFunctor {answers : Answers} {s' : SharedConnection} (inv : Inv [] s)
    (ordered : InOrder s (.runFunctor answers)) (stepped : s.step (.runFunctor answers) = .ok s') :
    Inv [] s' := by
  simp only [SharedConnection.step] at stepped
  cases front : s.io.pendingFunctors with
  | nil =>
    rw [front] at stepped
    cases stepped
    exact inv
  | cons functor rest =>
    rw [front] at stepped
    have popped := inv.pop front
    cases functor with
    | sendInLoop message => exact Inv.sendInLoop popped stepped
    | shutdownInLoop =>
      obtain ⟨io, ran, stepped⟩ := bind_eq_ok stepped
      cases stepped
      have state := inv.closing (.inl (by rw [front]; exact .head rest))
      refine Inv.shutdownInLoop popped state (fun idle => ?_) ran
      obtain ⟨queued, sends⟩ := ordered ⟨by rw [front]; rfl, idle⟩
      rw [front] at queued
      exact ⟨queued, sends⟩
    | writeCompleteCallback =>
      cases stepped
      exact Inv.observe popped rfl rfl
    | highWaterMarkCallback backlog =>
      cases stepped
      exact Inv.observe popped rfl rfl
    | forceCloseInLoop | startReadInLoop | stopReadInLoop | connectDestroyed =>
      cases stepped
      exact popped

/-! ## Every step -/

/-- `shutdown()` in the loop thread does not wait for the queue, which the condition asks to be
empty of messages. -/
theorem Inv.shutdownInLoopThread {result : Option Errno} {s' : SharedConnection} (inv : Inv [] s)
    (ordered : InOrder s (.shutdownInLoopThread result))
    (stepped : s.step (.shutdownInLoopThread result) = .ok s') : Inv [] s' := by
  obtain ⟨io, ran, stepped⟩ := bind_eq_ok stepped
  cases stepped
  have shutdown : Inv [] { s with io := io } := by
    simp only [IoLoop.shutdown, IoLoop.runInLoop, if_true] at ran
    split at ran
    next connected =>
      exact inv.disconnect.shutdownInLoop rfl (fun idle => ordered ⟨connected, idle⟩) ran
    next =>
      cases ran
      exact inv
  exact shutdown.stages (fun stored => shutdown.closing (.inr stored)) true

/-- Every step that is in order keeps the invariant. -/
theorem Inv.step {a : Act} {s' : SharedConnection} (inv : Inv [] s) (enabled : s.Enabled a)
    (ordered : InOrder s a) (stepped : s.step a = .ok s') : Inv [] s' := by
  cases a with
  | sendInLoopThread message result =>
    simp only [SharedConnection.step] at stepped
    split at stepped
    next connected => exact (inv.noteEarly connected message).sendInLoop stepped
    next =>
      cases stepped
      exact inv
  | shutdownInLoopThread result => exact inv.shutdownInLoopThread ordered stepped
  | send message =>
    simp only [SharedConnection.step] at stepped
    split at stepped
    next connected =>
      cases stepped
      have same : (s.noteEarly message).sends = s.sends := by
        unfold SharedConnection.noteEarly
        split
        · rfl
        · rfl
      rw [← same]
      exact (inv.noteEarly connected message).send
    next =>
      cases stepped
      exact inv
  | queueSend index =>
    simp only [SharedConnection.step] at stepped
    split at stepped
    next =>
      cases stepped
      exact inv
    next message found =>
      cases stepped
      exact (inv.takeSend found).queueSend
  | shutdown =>
    simp only [SharedConnection.step] at stepped
    split at stepped
    next =>
      cases stepped
      exact inv.stages (fun stored => inv.closing (.inr (by simpa using stored))) true
    next =>
      cases stepped
      exact inv.stages (fun stored => inv.closing (.inr stored)) true
  | setDisconnecting index =>
    cases stepped
    exact inv.disconnect.stages (fun _ => rfl) s.called
  | queueShutdown index =>
    cases stepped
    exact inv.queueShutdown enabled
  | runFunctor answers => exact inv.runFunctor ordered stepped
  | handleWrite answers =>
    obtain ⟨io, ran, stepped⟩ := bind_eq_ok stepped
    cases stepped
    exact inv.handleWrite ordered ran

/-- A connection that was just established has nothing on the way. -/
theorem Established.inv {io : IoLoop} (established : Established io) : Inv [] (.of io) := by
  obtain ⟨unused, connected, pending⟩ := established
  refine ⟨?_, unused.carries, List.nil_subperm, fun waiting => ?_, fun shut => ?_⟩
  · change io.conn.isOpen = true
    simp [TcpConnection.isOpen, connected]
  · simp [SharedConnection.of, pending] at waiting
  · obtain ⟨observation, member, shutdown⟩ := shut
    cases observation with
    | shutdownWrite backlog => exact absurd member (unused.running backlog)
    | connectionCallback _ | messageCallback | closeCallback | writeCompleteCallback
    | highWaterMarkCallback _ | accepted _ | destroyed => cases shutdown

/-- The invariant says what was sent before the shutdown. -/
theorem Inv.holds (inv : Inv [] s) (M : Machine SharedConnection Act Abort) :
    SentBeforeShutdown M s := by
  refine ⟨fun shut => ?_, fun shut => (inv.shut shut).complete, fun shut a _ writes => ?_⟩
  · have early := inv.early
    rw [(inv.shut shut).queued, (inv.shut shut).sends] at early
    simpa using early
  · have quiet := inv.shut shut
    cases a with
    | sendInLoopThread message result => exact inv.connected_open writes.1 shut
    | runFunctor answers =>
      obtain ⟨message, front, _⟩ := writes
      have queued := quiet.queued
      rw [List.head?_eq_some_iff] at front
      obtain ⟨rest, front⟩ := front
      rw [front] at queued
      cases queued
    | handleWrite answers =>
      have idle := quiet.idle
      rw [writes] at idle
      cases idle
    | shutdownInLoopThread _ | send _ | queueSend _ | shutdown | setDisconnecting _
    | queueShutdown _ => exact writes

/-- In every run of the loop thread and any number of others whose steps are in order: no
`shutdownWrite` is called with a message on the way. -/
theorem sent_before_shutdown {io : IoLoop} {actions : List Act} (established : Established io)
    (run : (machine.restrict InOrder).Run (.of io) actions s) :
    SentBeforeShutdown (machine.restrict InOrder) s := by
  have inv : Inv [] s :=
    @Machine.Run.invariant _ _ _ (machine.restrict InOrder) (Inv []) _ _ _
      (fun _ _ _ inv enabled stepped => inv.step enabled.1 enabled.2 stepped) established.inv run
  exact inv.holds _

theorem smallConnection_established : Established OutputIntegrity.smallConnection :=
  ⟨⟨Buffer.new_represents 4, by decide, rfl, by simp [OutputIntegrity.smallConnection]⟩, rfl, rfl⟩

/-- The loop thread sends two bytes, of which one is written; another thread sends a third and
calls `shutdown`, which waits for the writes. -/
def twoThreads : List Act :=
  [.sendInLoopThread [1, 2] (.wrote 1), .send [3], .queueSend 0, .shutdown, .setDisconnecting 0,
    .queueShutdown 0, .runFunctor ⟨.bytes [], .failed .EWOULDBLOCK, none⟩,
    .runFunctor ⟨.bytes [], .wrote 0, none⟩, .handleWrite ⟨.bytes [], .wrote 2, none⟩]

theorem sent_before_shutdown_two_threads : ∃ s,
    (machine.restrict InOrder).Run (.of OutputIntegrity.smallConnection) twoThreads s ∧
    accepted (beforeShutdown s.io.seen) = [1, 2, 3] ∧
    SentBeforeShutdown (machine.restrict InOrder) s := by
  obtain ⟨s, run, holds⟩ := (machine.restrict InOrder).exists_run_of_exec
    (.of OutputIntegrity.smallConnection) twoThreads
    (fun s => decide (accepted (beforeShutdown s.io.seen) = [1, 2, 3] ∧
      .shutdownWrite 0 ∈ s.io.seen)) (by decide +kernel)
  have holds := of_decide_eq_true holds
  exact ⟨s, run, holds.1, sent_before_shutdown smallConnection_established run⟩

/-- The message of another thread is queued when the loop thread calls `shutdown`. -/
theorem message_overtaken : ∃ s,
    machine.Run (.of OutputIntegrity.smallConnection)
      [.send [1], .queueSend 0, .shutdownInLoopThread none] s ∧
    ¬SentBeforeShutdown machine s := by
  obtain ⟨s, run, holds⟩ := machine.exists_run_of_exec (.of OutputIntegrity.smallConnection)
    [.send [1], .queueSend 0, .shutdownInLoopThread none]
    (fun s => decide (.shutdownWrite 0 ∈ s.io.seen ∧ s.early = [[1]] ∧ s.given = []))
    (by decide +kernel)
  obtain ⟨shut, early, given⟩ := of_decide_eq_true holds
  refine ⟨s, run, fun sent => ?_⟩
  have lost := (sent.given ⟨_, shut, rfl⟩).length_le
  rw [early, given] at lost
  cases lost

end Starry.Guarantees.SendBeforeShutdown
