import Starry.Source.ConnectionLoop
import Starry.Source.TcpConnectionSpec

/-!
# What the steps of a connection on its loop do

Success and failure of the functions of `Session`, and names for the steps that conditions
on runs speak of.
-/
namespace Starry.Source.Session

open Starry.Foundation
open Starry.Source.IoLoop

variable {s s' : Session}

/-! ## Steps by what they run -/

/-- The step runs `connectDestroyed`. -/
def Destroys (s : Session) : Act → Prop
  | .runFunctor _ => s.functors.head? = some .connectDestroyed
  | .destroyServer => s.registered = true ∧ s.sameLoop = true
  | _ => False

/-- The step runs `startReadInLoop`. -/
def StartsReading (s : Session) : Act → Prop
  | .call inLoopThread call _ => inLoopThread = true ∧ call = .startRead
  | .runFunctor _ => s.functors.head? = some .startReadInLoop
  | _ => False

/-- The step runs `stopReadInLoop`. -/
def StopsReading (s : Session) : Act → Prop
  | .call inLoopThread call _ => inLoopThread = true ∧ call = .stopRead
  | .runFunctor _ => s.functors.head? = some .stopReadInLoop
  | _ => False

/-- The step enters `handleClose`. -/
def Closes (s : Session) : Act → Prop
  | .proceed answers =>
    (s.todo.head? = some .closeOnHangup ∧ hangup s.io.conn.channel.revents = true) ∨
    (s.todo.head? = some .readEvent ∧ readable s.io.conn.channel.revents = true ∧
      answers.read = .bytes [])
  | .runFunctor _ => s.functors.head? = some .forceCloseInLoop ∧ s.io.conn.isOpen = true
  | _ => False

instance (s : Session) (a : Act) : Decidable (s.Closes a) :=
  match a with
  | .proceed _ => inferInstanceAs (Decidable (_ ∨ _))
  | .runFunctor _ => inferInstanceAs (Decidable (_ ∧ _))
  | .connectEstablished | .call _ _ _ | .retrieveInput _ | .poll _ | .handleEvent
  | .doPendingFunctors | .iterate | .removeConnectionInLoop | .destroyServer =>
    isFalse (by simp [Closes])

instance (s : Session) (a : Act) : Decidable (s.Destroys a) :=
  match a with
  | .runFunctor _ => inferInstanceAs (Decidable (_ = _))
  | .destroyServer => inferInstanceAs (Decidable (_ ∧ _))
  | .connectEstablished | .call _ _ _ | .retrieveInput _ | .poll _ | .handleEvent | .proceed _
  | .doPendingFunctors | .iterate | .removeConnectionInLoop => isFalse (by simp [Destroys])

instance (s : Session) (a : Act) : Decidable (s.StartsReading a) :=
  match a with
  | .call _ _ _ => inferInstanceAs (Decidable (_ ∧ _))
  | .runFunctor _ => inferInstanceAs (Decidable (_ = _))
  | .connectEstablished | .retrieveInput _ | .poll _ | .handleEvent | .proceed _
  | .doPendingFunctors | .iterate | .removeConnectionInLoop | .destroyServer =>
    isFalse (by simp [StartsReading])

instance (s : Session) (a : Act) : Decidable (s.StopsReading a) :=
  match a with
  | .call _ _ _ => inferInstanceAs (Decidable (_ ∧ _))
  | .runFunctor _ => inferInstanceAs (Decidable (_ = _))
  | .connectEstablished | .retrieveInput _ | .poll _ | .handleEvent | .proceed _
  | .doPendingFunctors | .iterate | .removeConnectionInLoop | .destroyServer =>
    isFalse (by simp [StopsReading])

/-! ## Success -/

/-- `handleClose` leaves the callbacks of its last lines to come. -/
theorem close_ok (success : s.close = .ok s') :
    ∃ io, s.io.handleClose = .ok io ∧
      s' = { s with io := io, todo := .userCode :: .closeCallback :: s.todo } := by
  obtain ⟨io, closed, success⟩ := bind_eq_ok success
  cases success
  exact ⟨io, closed, rfl⟩

/-- The loop with another input buffer. -/
def input (l : IoLoop) (buffer : Buffer) : IoLoop :=
  { l with conn := { l.conn with inputBuffer := buffer } }

theorem input_aside (l : IoLoop) (buffer : Buffer) : l.Aside (input l buffer) :=
  ⟨rfl, rfl, rfl, rfl, Iff.rfl, Iff.rfl, id, fun _ _ => rfl⟩

/-- `readFd` returns 0 only at the end of the stream. -/
theorem readFd_zero {b : Buffer} {result : ReadResult} {out : Buffer.ReadFd}
    (read : b.readFd true result = .ok out) (zero : out.n = 0) : result = .bytes [] := by
  cases result with
  | failed errno =>
    cases read
    cases zero
  | bytes data =>
    simp only [Buffer.readFd] at read
    split at read
    · cases read
      simpa using zero
    · obtain ⟨longer, _, read⟩ := bind_eq_ok read
      cases read
      simpa using zero

/-- A read delivers a message, or meets the end of the stream and closes, or fails. -/
theorem handleRead_ok {result : ReadResult} (success : s.handleRead result = .ok s') :
    ∃ buffer,
      s' = { s with io := (input s.io buffer).observe .messageCallback
                    todo := .userCode :: s.todo } ∨
      (result = .bytes [] ∧ ({ s with io := input s.io buffer } : Session).close = .ok s') ∨
      s' = { s with io := input s.io buffer } := by
  obtain ⟨out, read, success⟩ := bind_eq_ok success
  refine ⟨out.buffer, ?_⟩
  dsimp only at success
  split at success
  · cases success
    exact .inl rfl
  · split at success
    next empty => exact .inr (.inl ⟨readFd_zero read empty, success⟩)
    next =>
      cases success
      exact .inr (.inr rfl)

theorem removeConnectionInLoop_ok (success : s.removeConnectionInLoop = .ok s') :
    s' = { s with registered := false, io := s.io.queueInLoop .connectDestroyed } := by
  obtain ⟨_, _, success⟩ := bind_eq_ok success
  cases success
  rfl

/-- The close callback is seen, and `connectDestroyed` is queued here or its queueing asked
of the base loop. -/
theorem removeConnection_ok (success : s.removeConnection = .ok s') :
    s' = { s with registered := false
                  io := (s.io.observe .closeCallback).queueInLoop .connectDestroyed } ∨
    s' = { s with io := s.io.observe .closeCallback, removals := s.removals + 1 } := by
  unfold removeConnection at success
  dsimp only at success
  split at success
  · cases success
  · split at success
    · exact .inl (removeConnectionInLoop_ok success)
    · cases success
      exact .inr rfl

/-- `connectDestroyed` closes in `kConnected`, and then removes the channel. -/
theorem connectDestroyed_ok (success : s.connectDestroyed = .ok s') :
    (s.io.conn.state = .kConnected ∧ ∃ io, s.io.beginDestroy = .ok io ∧
      s' = { s with io := io, todo := .userCode :: .removeChannel :: s.todo }) ∨
    (s.io.conn.state ≠ .kConnected ∧ s' = { s with todo := .removeChannel :: s.todo }) := by
  unfold connectDestroyed at success
  split at success
  next connected =>
    obtain ⟨io, begun, success⟩ := bind_eq_ok success
    cases success
    exact .inl ⟨connected, io, begun, rfl⟩
  next other =>
    cases success
    exact .inr ⟨other, rfl⟩

theorem writeEvent_ok {answers : Answers} (success : s.perform answers .writeEvent = .ok s') :
    s' = s ∨ ∃ io, s.io.handleWrite answers = .ok io ∧ s' = { s with io := io } := by
  simp only [perform] at success
  split at success
  · obtain ⟨io, written, success⟩ := bind_eq_ok success
    cases success
    exact .inr ⟨io, written, rfl⟩
  · cases success
    exact .inl rfl

theorem proceed_ok {answers : Answers} (enabled : s.Enabled (.proceed answers))
    (success : s.step (.proceed answers) = .ok s') : ∃ task rest, s.todo = task :: rest ∧
      ({ s with todo := rest } : Session).perform answers task = .ok s' := by
  simp only [step] at success
  cases front : s.todo with
  | nil => exact absurd front enabled
  | cons task rest =>
    rw [front] at success
    exact ⟨task, rest, rfl, success⟩

theorem runFunctor_ok {answers : Answers} (enabled : s.Enabled (.runFunctor answers))
    (success : s.step (.runFunctor answers) = .ok s') :
    ∃ functor rest, s.functors = functor :: rest ∧
      ({ s with functors := rest } : Session).runFunctor answers functor = .ok s' := by
  simp only [step] at success
  cases front : s.functors with
  | nil => exact absurd front enabled.2.2
  | cons functor rest =>
    rw [front] at success
    exact ⟨functor, rest, rfl, success⟩

/-! ## Failure -/

theorem close_faults (agrees : s.io.Agrees) :
    Faults s.close fun reason =>
      reason = .assertion .tcpConnectionCpp 314 ∧ s.io.conn.isOpen = false :=
  Faults.bind (handleClose_faults agrees) fun _ _ => .ok

/-- A foreign reason, or the assertion of `handleClose` on a closed connection. -/
def MayFail (s : Session) (closing : Prop) (reason : Abort) : Prop :=
  Foreign reason ∨
    (reason = .assertion .tcpConnectionCpp 314 ∧ s.io.conn.isOpen = false ∧ closing)

/-- A read fails where it closes a connection that is not open. -/
theorem handleRead_faults (agrees : s.io.Agrees) (result : ReadResult) :
    Faults (s.handleRead result) (s.MayFail True) := by
  refine Faults.bind ((Buffer.readFd_faults _ _ _).imp fun _ own =>
    .inl (foreign_of_buffer own)) fun out _ => ?_
  dsimp only
  split
  · exact .ok
  · split
    · refine (close_faults ?_).imp fun reason failed => .inr ⟨failed.1, failed.2, trivial⟩
      exact agrees
    · exact .ok

/-- The task is one that closes the connection if the reported events say so. -/
def Closing (revents : EventMask) (task : Task) : Prop :=
  (task = .closeOnHangup ∧ hangup revents = true) ∨
    (task = .readEvent ∧ readable revents = true)

theorem removeConnectionInLoop_faults (s : Session) : Faults s.removeConnectionInLoop Foreign :=
  Faults.bind (faults_cassert (by decide)) fun _ _ => .ok

theorem removeConnection_faults (s : Session) : Faults s.removeConnection Foreign := by
  unfold removeConnection
  dsimp only
  split
  · exact .error (by decide)
  · split
    · exact removeConnectionInLoop_faults _
    · exact .ok

/-- A task fails where it closes a connection that is not open. -/
theorem perform_faults (agrees : s.io.Agrees) (answers : Answers) {task : Task}
    (idle : task = .removeChannel → s.io.conn.channel.events = 0#32) :
    Faults (s.perform answers task) (s.MayFail (Closing s.io.conn.channel.revents task)) := by
  cases task with
  | closeOnHangup =>
    simp only [perform]
    split
    next reported =>
      exact (close_faults agrees).imp fun reason failed =>
        .inr ⟨failed.1, failed.2, .inl ⟨rfl, reported⟩⟩
    next => exact .ok
  | reportError => exact .ok
  | readEvent =>
    simp only [perform]
    split
    next reported =>
      refine (handleRead_faults agrees answers.read).imp fun reason failed => ?_
      rcases failed with foreign | ⟨asserted, closed, _⟩
      · exact .inl foreign
      · exact .inr ⟨asserted, closed, .inr ⟨rfl, reported⟩⟩
    next => exact .ok
  | writeEvent =>
    simp only [perform]
    split
    · exact Faults.bind ((handleWrite_faults agrees answers).imp fun _ => .inl) fun _ _ => .ok
    · exact .ok
  | leaveEvent => exact .ok
  | userCode => exact .ok
  | closeCallback => exact (removeConnection_faults s).imp fun _ => .inl
  | removeChannel =>
    exact Faults.bind ((removeChannel_faults (idle rfl)).imp fun _ => .inl) fun _ _ => .ok

theorem connectDestroyed_faults (agrees : s.io.Agrees) : Faults s.connectDestroyed Foreign := by
  unfold connectDestroyed
  split
  · exact Faults.bind (beginDestroy_faults agrees) fun _ _ => .ok
  · exact .ok

/-- `forceCloseInLoop` looks at the state first, so no functor trips `handleClose`. -/
theorem runFunctor_faults (agrees : s.io.Agrees) (answers : Answers) (functor : LoopFunctor) :
    Faults (s.runFunctor answers functor) Foreign := by
  cases functor with
  | sendInLoop message => exact Faults.bind (sendInLoop_faults agrees _ _) fun _ _ => .ok
  | shutdownInLoop => exact Faults.bind (shutdownInLoop_faults _ _) fun _ _ => .ok
  | forceCloseInLoop =>
    simp only [runFunctor]
    split
    next opened =>
      refine (close_faults agrees).imp fun reason failed => ?_
      rw [opened] at failed
      exact absurd failed.2 (by simp)
    next => exact .ok
  | startReadInLoop => exact Faults.bind (startReadInLoop_faults agrees) fun _ _ => .ok
  | stopReadInLoop => exact Faults.bind (stopReadInLoop_faults agrees) fun _ _ => .ok
  | writeCompleteCallback => exact .ok
  | highWaterMarkCallback backlog => exact .ok
  | connectDestroyed => exact connectDestroyed_faults agrees

/-- A step fails for a foreign reason, or goes on with a task that closes a connection
which is no longer open. -/
theorem step_faults (agrees : s.io.Agrees)
    (idle : s.todo.head? = some .removeChannel → s.io.conn.channel.events = 0#32) (a : Act) :
    Faults (s.step a) (s.MayFail (∃ task, s.todo.head? = some task ∧
      Closing s.io.conn.channel.revents task)) := by
  cases a with
  | connectEstablished =>
    exact Faults.bind ((connectEstablished_faults agrees).imp fun _ => .inl) fun _ _ => .ok
  | call inLoopThread call answers =>
    exact Faults.bind ((call_faults agrees _ _ _).imp fun _ => .inl) fun _ _ => .ok
  | retrieveInput len =>
    exact Faults.bind ((Buffer.retrieve_faults _ _).imp fun _ own =>
      .inl (foreign_of_buffer own)) fun _ _ => .ok
  | poll reported =>
    cases reported with
    | none => exact .ok
    | some revents => exact .ok
  | handleEvent => exact .ok
  | proceed answers =>
    simp only [step]
    cases rest : s.todo with
    | nil => exact .ok
    | cons task later =>
      rw [rest] at idle
      have failed := @perform_faults { s with todo := later } agrees answers task
        (fun removal => idle (by rw [removal]; rfl))
      refine failed.imp fun reason failed => ?_
      rcases failed with foreign | ⟨asserted, closed, closing⟩
      · exact .inl foreign
      · exact .inr ⟨asserted, closed, task, rfl, closing⟩
  | doPendingFunctors => exact .ok
  | runFunctor answers =>
    simp only [step]
    split
    · exact .ok
    · refine (runFunctor_faults ?_ answers _).imp fun _ => .inl
      exact agrees
  | iterate => exact .ok
  | removeConnectionInLoop =>
    simp only [step]
    split
    · exact .error (.inl (by decide))
    · exact (removeConnectionInLoop_faults _).imp fun _ => .inl
  | destroyServer =>
    simp only [step, destroyServer]
    split
    · exact .ok
    · split
      · refine (connectDestroyed_faults ?_).imp fun _ => .inl
        exact agrees
      · exact .ok

end Starry.Source.Session
