import Starry.Source.Connector

/-!
# Reconnecting after a close

`enableRetry` promises that a connection which was made and then closed is made again.
`removeConnection` finds that it should reconnect, says so in the log, and then drops the
connector (`connector_.reset()`), where `Connector::restart` is what starts a new attempt; no
code calls `restart`. So with `retry_` set the first close ends all attempts, and a later
`connect` follows a null pointer.

`reconnects_iff` is about the runs without `disconnect` and `stop`: those in which the
connector stays and every close is followed by an attempt are those in which no connection
is closed once `enableRetry` was called.
-/
namespace Starry.Guarantees.Reconnection

open Starry.Foundation
open Starry.Source
open Starry.Source.ClientLoop

/-- The user calls neither `disconnect` nor `stop`. -/
def Undisturbed (_ : ClientLoop) (a : Act) : Prop := a ≠ .disconnect ∧ a ≠ .stop

instance (l : ClientLoop) (a : Act) : Decidable (Undisturbed l a) :=
  inferInstanceAs (Decidable (_ ∧ _))

/-- The connector is connecting, waits for its retry timer, or has handed over a socket. -/
def Attempting (l : ClientLoop) : Prop :=
  l.connector.state = .KConnecting ∨ l.timers ≠ [] ∨ l.client.connection ≠ none

/-- `connector_` is not null, and when a connection was removed with `retry_` set, the next
attempt is under way. -/
structure Reconnects (before : ClientLoop) (a : Act) (after : ClientLoop) : Prop where
  connector : after.client.connector = true
  attempt : a = .close → before.client.retry = true → Attempting after

/-- No connection is closed with `retry_` set. -/
def Unclosed (l : ClientLoop) (a : Act) : Prop := a = .close → l.client.retry = false

instance (l : ClientLoop) (a : Act) : Decidable (Unclosed l a) :=
  inferInstanceAs (Decidable (_ → _))

/-! ## The flags of the client -/

structure Armed (l : ClientLoop) : Prop where
  connector : l.client.connector = true
  connectFlag : l.client.connectFlag = true

/-- A step that returns leaves the flags set. -/
def KeepsArmed (outcome : Except Abort ClientLoop) : Prop := Ends outcome Armed fun _ => True

variable {l l' : ClientLoop}

theorem keepsArmed_error {reason : Abort} : KeepsArmed (.error reason) := trivial

theorem Armed.of_client (armed : Armed l) (same : l'.client = l.client) : Armed l' := by
  obtain ⟨connector, connectFlag⟩ := armed
  exact ⟨by rw [same, connector], by rw [same, connectFlag]⟩

theorem retry_client (socket : Nat) : (Connector.retry l socket).client = l.client := by
  unfold Connector.retry
  dsimp only [Connector.setState]
  split <;> rfl

/-- The connector does not touch the flags of its client. -/
theorem Armed.connecting (armed : Armed l) (socket : Nat) :
    KeepsArmed (Connector.connecting l socket) := by
  unfold Connector.connecting
  refine ends_cassert trivial fun _ => ?_
  exact armed.of_client rfl

/-- `startInLoop` leaves them, connected or refused. -/
theorem Armed.startInLoop (armed : Armed l) (answers : ConnectAnswers) :
    KeepsArmed (Connector.startInLoop l answers) := by
  unfold Connector.startInLoop
  refine ends_cassert trivial fun _ => ?_
  split
  · unfold Connector.connect
    split
    · exact keepsArmed_error
    · have opened : Armed { l with sockets := l.sockets ++ [.connecting] } := armed.of_client rfl
      dsimp only
      split
      all_goals first
        | exact opened.connecting _
        | exact opened.of_client (retry_client _)
        | exact keepsArmed_error
  · exact armed

theorem removeAndResetChannel_client {out : Nat × ClientLoop}
    (success : Connector.removeAndResetChannel l = .ok out) : out.2.client = l.client := by
  unfold Connector.removeAndResetChannel at success
  split at success
  · cases success
  · cases success
    rfl

/-- The channel is removed, and what comes next keeps the flags. -/
theorem Armed.removed (armed : Armed l) {next : Nat × ClientLoop → Except Abort ClientLoop}
    (later : ∀ socket left, Armed left → KeepsArmed (next (socket, left))) :
    KeepsArmed (Connector.removeAndResetChannel l >>= next) := by
  have removed : Ends (Connector.removeAndResetChannel l) (fun out => Armed out.2) fun _ => True := by
    refine Ends.of_faults (fun out success => ?_) fun _ _ => trivial
    exact armed.of_client (removeAndResetChannel_client success)
  exact removed.bind fun out _ kept => later out.1 out.2 kept

theorem Armed.handleError (armed : Armed l) : KeepsArmed (Connector.handleError l) := by
  unfold Connector.handleError
  split
  · exact armed.removed fun socket left kept => kept.of_client (retry_client socket)
  · exact armed

/-- A socket that is handed over leaves them too. -/
theorem Armed.handleWrite (armed : Armed l) (soError selfConnect : Bool) :
    KeepsArmed (Connector.handleWrite l soError selfConnect) := by
  unfold Connector.handleWrite
  split
  · refine armed.removed fun socket left kept => ?_
    dsimp only
    split
    · exact kept.of_client (retry_client socket)
    · split
      · exact kept.of_client (retry_client socket)
      · split
        · exact ⟨kept.connector, kept.connectFlag⟩
        · exact kept.of_client rfl
  · refine ends_cassert trivial fun _ => ?_
    exact armed

theorem Armed.handleEvent (armed : Armed l) (revents : EventMask) (soError selfConnect : Bool) :
    KeepsArmed (Connector.handleEvent l revents soError selfConnect) := by
  have handled : KeepsArmed
      (if revents &&& EPOLLERR ≠ 0#32 then Connector.handleError l else .ok l) := by
    split
    · exact armed.handleError
    · exact armed
  refine handled.bind fun left _ kept => ?_
  split
  · exact kept.handleWrite soError selfConnect
  · exact kept

theorem Armed.runFunctor (armed : Armed l) (functor : ClientFunctor) :
    KeepsArmed (ClientLoop.runFunctor l functor) := by
  cases functor with
  | connectDestroyed => exact armed
  | stopInLoop =>
    simp only [ClientLoop.runFunctor]
    split
    · exact keepsArmed_error
    · unfold Connector.stopInLoop
      split
      · have connected : Armed (Connector.setState l .KConnected) := armed.of_client rfl
        exact connected.removed fun socket left kept => kept.of_client (retry_client socket)
      · exact armed
  | resetChannel =>
    simp only [ClientLoop.runFunctor]
    split
    · exact keepsArmed_error
    · unfold Connector.resetChannel
      refine ends_cassert trivial fun _ => ?_
      exact armed.of_client rfl

theorem release_eq {out : ClientLoop} (success : Connector.release l = .ok out) : out = l := by
  unfold Connector.release at success
  split at success
  · obtain ⟨_, _, returned⟩ := bind_eq_ok success
    exact (Except.ok.inj returned).symm
  · exact (Except.ok.inj success).symm

theorem Armed.release (armed : Armed l) : KeepsArmed (Connector.release l) := by
  refine Ends.of_faults (fun out success => ?_) fun _ _ => trivial
  rw [release_eq success]
  exact armed

/-! ## One step -/

/-- A removal with both flags set drops the connector. -/
theorem removeConnection_drops (armed : Armed l) (retry : l.client.retry = true)
    (success : TcpClient.removeConnection l = .ok l') : l'.client.connector = false := by
  simp only [TcpClient.removeConnection, Connector.queueInLoop, retry, armed.connectFlag,
    armed.connector, and_self, if_true, Bool.true_eq_false, if_false] at success
  rw [release_eq success]

/-- A close without `retry_` leaves `connector_` alone. -/
theorem Armed.removeConnection (armed : Armed l) (single : l.client.retry = false) :
    KeepsArmed (TcpClient.removeConnection l) := by
  simp only [TcpClient.removeConnection, Connector.queueInLoop, single, Bool.false_eq_true,
    false_and, if_false]
  exact ⟨armed.connector, armed.connectFlag⟩

/-- No step disarms the client but a close with `retry_` set. -/
theorem Armed.step {a : Act} (armed : Armed l) (undisturbed : Undisturbed l a)
    (unclosed : Unclosed l a) : KeepsArmed (ClientLoop.step l a) := by
  cases a with
  | disconnect => exact absurd rfl undisturbed.1
  | stop => exact absurd rfl undisturbed.2
  | connect answers =>
    simp only [ClientLoop.step, TcpClient.connect]
    split
    · exact keepsArmed_error
    · have started : Armed { l with
          client := { l.client with connectFlag := true }
          connector := { l.connector with connectFlag := true } } := ⟨armed.connector, rfl⟩
      exact started.startInLoop answers
  | enableRetry => exact ⟨armed.connector, armed.connectFlag⟩
  | timer index answers =>
    have fired : Armed { l with timers := l.timers.eraseIdx index } := armed.of_client rfl
    exact (fired.startInLoop answers).bind fun left _ kept => kept.release
  | event revents soError selfConnect => exact armed.handleEvent revents soError selfConnect
  | functor =>
    unfold ClientLoop.step
    dsimp only
    split
    · exact armed
    next functor rest _ =>
      have popped : Armed { l with pending := rest } := armed.of_client rfl
      exact popped.runFunctor functor
  -- with `retry_` unset a removal keeps the connector
  | close => exact armed.removeConnection (unclosed rfl)

/-- A step reconnects as it should exactly if it is not such a close. -/
theorem step_reconnects {a : Act} (armed : Armed l) (undisturbed : Undisturbed l a)
    (stepped : ClientLoop.step l a = .ok l') : Unclosed l a ↔ Reconnects l a l' := by
  constructor
  · intro unclosed
    refine ⟨((armed.step undisturbed unclosed).of_ok stepped).connector, ?_⟩
    intro closing retry
    rw [unclosed closing] at retry
    cases retry
  · intro reconnects closing
    subst closing
    by_contra retry
    have dropped := removeConnection_drops armed (Bool.eq_true_of_not_eq_false retry) stepped
    rw [reconnects.connector] at dropped
    cases dropped

/-! ## Every run -/

/-- Without `disconnect` and `stop`, the runs in which the client reconnects after every close
are those without a close after `enableRetry`. -/
theorem reconnects_iff {actions : List Act} :
    ((machine.restrict Undisturbed).restrict Unclosed).Run .new actions l ↔
      ((machine.restrict Undisturbed).ensuring Reconnects).Run .new actions l := by
  refine @Machine.restrict_iff_ensuring _ _ _ (machine.restrict Undisturbed) _ _ Armed _ _ _
    ?_ ?_ ⟨rfl, rfl⟩
  · intro l a l' armed allowed stepped
    exact step_reconnects armed allowed.2 stepped
  · intro l a l' armed allowed unclosed stepped
    exact (armed.step allowed.2 unclosed).of_ok stepped

instance (l : ClientLoop) : Decidable (Attempting l) := inferInstanceAs (Decidable (_ ∨ _))

/-- A connection is made and closed by the peer: the connector is gone, and nothing is going on
or queued that would start an attempt. -/
theorem closed_connection_stays_closed : ∃ l, (machine.restrict Undisturbed).Run .new
      [.enableRetry, .connect ⟨none, some .EINPROGRESS⟩, .event EPOLLOUT false false, .functor,
        .close] l ∧
    ¬ Attempting l ∧ l.pending = [.connectDestroyed] ∧ ∀ before, ¬ Reconnects before .close l := by
  obtain ⟨l, run, holds⟩ := (machine.restrict Undisturbed).exists_run_of_exec .new
    [.enableRetry, .connect ⟨none, some .EINPROGRESS⟩, .event EPOLLOUT false false, .functor, .close]
    (fun l => decide (l.client.connector = false ∧ ¬ Attempting l ∧ l.pending = [.connectDestroyed]))
    (by decide +kernel)
  obtain ⟨dropped, idle, queued⟩ := of_decide_eq_true holds
  refine ⟨l, run, idle, queued, fun before reconnects => ?_⟩
  rw [reconnects.connector] at dropped
  cases dropped

end Starry.Guarantees.Reconnection
