import Starry.Source.ConnectorSockets

/-!
# The two models of a connector agree

`Starry.Source.Connector` has the connector under its client, on one thread;
`Starry.Source.ConnectorSockets` has it alone, with calls of any threads and a ledger of its
sockets. On matching states the functions of `connector.cpp` do the same in both, and every run
of the client is matched by a run of the connector alone: what holds of the sockets in all runs
of the second holds in those of the first.
-/
namespace Starry.Guarantees.ConnectorAgreement

open Starry.Foundation
open Starry.Source

/-- What an event of the ledger makes of the sockets. -/
def record (sockets : List SocketFate) : SocketEvent → List SocketFate
  | .opened _ => sockets ++ [.connecting]
  | .closed socket => sockets.set socket .closed
  | .handedOver socket => sockets.set socket .handedOver

def fates (ledger : List SocketEvent) : List SocketFate := ledger.foldl record []

/-- The functor of the connector alone; `connectDestroyed` is the connection's. -/
def asFunctor : ClientFunctor → Option ConnectorFunctor
  | .stopInLoop => some .stopInLoop
  | .resetChannel => some .resetChannel
  | .connectDestroyed => none

structure Matches (l : ClientLoop) (c : ConnectorLoop) : Prop where
  connector : c.connector = l.connector
  pending : c.pending = l.pending.filterMap asFunctor
  calls : c.calls = []
  timers : c.timers = l.timers
  sockets : c.sockets = l.sockets.length
  ledger : fates c.ledger = l.sockets

variable {l : ClientLoop} {c : ConnectorLoop} {socket : Nat}

/-! ## The functions of `connector.cpp` -/

theorem fates_note (event : SocketEvent) : fates (c.note event).ledger = record (fates c.ledger) event := by
  simp [fates, ConnectorLoop.note]

theorem Matches.setState (same : Matches l c) (state : ConnectorState) :
    Matches (Connector.setState l state) (c.setState state) :=
  { same with connector := by simp [ConnectorLoop.setState, Connector.setState, same.connector] }

theorem Matches.queueInLoop (same : Matches l c) {functor : ClientFunctor}
    {queued : ConnectorFunctor} (shared : asFunctor functor = some queued) :
    Matches (Connector.queueInLoop l functor) (c.queueInLoop queued) :=
  { same with
    pending := by simp [ConnectorLoop.queueInLoop, Connector.queueInLoop, same.pending, shared] }

/-- The socket is closed. -/
theorem Matches.close (same : Matches l c) (socket : Nat) :
    Matches { l with sockets := l.sockets.set socket .closed } (c.note (.closed socket)) :=
  { same with
    sockets := by simp [ConnectorLoop.note, same.sockets]
    ledger := by rw [fates_note, same.ledger]; rfl }

/-- `newConnectionCallback_` has the socket in the one and the client in the other. -/
theorem Matches.handOver (same : Matches l c) (socket : Nat) :
    Matches (TcpClient.newConnection l socket) (c.note (.handedOver socket)) :=
  { same with
    sockets := by simp [ConnectorLoop.note, TcpClient.newConnection, same.sockets]
    ledger := by rw [fates_note, same.ledger]; rfl }

theorem Matches.createSocket (same : Matches l c) :
    Matches { l with sockets := l.sockets ++ [.connecting] } c.createSocket :=
  { same with
    sockets := by simp [ConnectorLoop.createSocket, same.sockets]
    ledger := by
      have noted := @fates_note c (.opened c.sockets)
      rw [same.ledger] at noted
      exact noted }

/-- `retry` closes the socket and arms the timer if the connector is wanted. -/
theorem Matches.retry (same : Matches l c) (socket : Nat) :
    Matches (Connector.retry l socket) (c.retry socket) := by
  have closed := (same.close socket).setState .kDisconnected
  unfold Connector.retry ConnectorLoop.retry
  simp only [closed.connector]
  split
  · exact { closed with
      connector := rfl
      timers := by simp only [closed.timers] }
  · exact closed

theorem connecting_alike (same : Matches l c) (socket : Nat) :
    Alike Matches (Connector.connecting l socket) (c.connecting socket) := by
  have entered := same.setState .KConnecting
  unfold Connector.connecting ConnectorLoop.connecting
  simp only [entered.connector]
  refine (Alike.refl _).bind fun _ _ _ => ?_
  exact { entered with connector := rfl }

theorem connect_alike (same : Matches l c) (answers : ConnectAnswers) :
    Alike Matches (Connector.connect l answers) (c.connect answers) := by
  have created := same.createSocket
  unfold Connector.connect ConnectorLoop.connect
  rw [same.sockets]
  cases answers.socket with
  | some reason => exact rfl
  | none =>
    cases answers.connect with
    | none => exact connecting_alike created _
    | some reason =>
      cases reason <;> first | exact connecting_alike created _ | exact created.retry _ | exact rfl

theorem startInLoop_alike (same : Matches l c) (answers : ConnectAnswers) :
    Alike Matches (Connector.startInLoop l answers) (c.startInLoop answers) := by
  unfold Connector.startInLoop ConnectorLoop.startInLoop
  rw [same.connector]
  refine (Alike.refl _).bind fun _ _ _ => ?_
  split
  · exact connect_alike same answers
  · exact same

/-- Both take the socket out of the channel, or miss the channel. -/
theorem removeAndResetChannel_alike (same : Matches l c) :
    Alike (fun found other => other.1 = found.1 ∧ Matches found.2 other.2)
      (Connector.removeAndResetChannel l) c.removeAndResetChannel := by
  unfold Connector.removeAndResetChannel ConnectorLoop.removeAndResetChannel
  rw [same.connector]
  cases l.connector.channel with
  | none => exact rfl
  | some channel =>
    refine ⟨rfl, Matches.queueInLoop ?_ rfl⟩
    exact { same with connector := by simp }

theorem resetChannel_alike (same : Matches l c) :
    Alike Matches (Connector.resetChannel l) c.resetChannel := by
  unfold Connector.resetChannel ConnectorLoop.resetChannel
  simp only [same.connector]
  refine (Alike.refl _).bind fun _ _ _ => ?_
  exact { same with connector := rfl }

theorem stopInLoop_alike (same : Matches l c) :
    Alike Matches (Connector.stopInLoop l) c.stopInLoop := by
  unfold Connector.stopInLoop ConnectorLoop.stopInLoop
  rw [same.connector]
  split
  · refine (removeAndResetChannel_alike (same.setState .KConnected)).bind ?_
    rintro ⟨socket, m⟩ ⟨_, d⟩ ⟨rfl, removed⟩
    exact removed.retry _
  · exact same

theorem handleError_alike (same : Matches l c) :
    Alike Matches (Connector.handleError l) c.handleError := by
  unfold Connector.handleError ConnectorLoop.handleError
  rw [same.connector]
  split
  · refine (removeAndResetChannel_alike same).bind ?_
    rintro ⟨socket, m⟩ ⟨_, d⟩ ⟨rfl, removed⟩
    exact removed.retry _
  · exact same

/-- Both read the error of the socket before they look for a connection with itself. -/
theorem handleWrite_alike (same : Matches l c) (soError selfConnect : Bool) :
    Alike Matches (Connector.handleWrite l soError selfConnect)
      (c.handleWrite soError selfConnect) := by
  unfold Connector.handleWrite ConnectorLoop.handleWrite
  rw [same.connector]
  split
  · refine (removeAndResetChannel_alike same).bind ?_
    rintro ⟨socket, m⟩ ⟨_, d⟩ ⟨rfl, removed⟩
    have entered := removed.setState .KConnected
    simp only [entered.connector]
    split
    · exact removed.retry _
    split
    · exact removed.retry _
    split
    · exact entered.handOver _
    · exact entered.close _
  · exact (Alike.refl _).bind fun _ _ _ => same

/-- Both are called back by what is reported and watched. -/
theorem handleEvent_alike (same : Matches l c) (revents : EventMask) (soError selfConnect : Bool) :
    Alike Matches (Connector.handleEvent l revents soError selfConnect)
      (c.handleEvent revents soError selfConnect) := by
  unfold Connector.handleEvent ConnectorLoop.handleEvent
  have first : Alike Matches
      (if revents &&& EPOLLERR ≠ 0#32 then Connector.handleError l else .ok l)
      (if revents &&& EPOLLERR ≠ 0#32 then c.handleError else .ok c) := by
    split
    · exact handleError_alike same
    · exact same
  refine first.bind fun m d between => ?_
  split
  · exact handleWrite_alike between soError selfConnect
  · exact between

/-! ## Steps of the client -/

/-- A call of the connector alone in which one step does what the step of the client does. -/
theorem Matches.once {outcome : Except Abort ClientLoop} {l' : ClientLoop} {a : ConnectorLoop.Act}
    (allowed : c.Enabled a) (alike : Alike Matches outcome (c.step a)) (returned : outcome = .ok l') :
    ∃ answers c', ConnectorLoop.machine.Run c answers c' ∧ Matches l' c' := by
  obtain ⟨c', stepped, matched⟩ := alike.of_ok returned
  exact ⟨[a], c', .one allowed stepped, matched⟩

/-- A step of the client alone is no step of the connector. -/
theorem Matches.aside {l' : ClientLoop} (same : Matches l' c) :
    ∃ answers c', ConnectorLoop.machine.Run c answers c' ∧ Matches l' c' :=
  ⟨[], c, .done c, same⟩

/-- `stop` stores `connect_` and queues its functor. -/
theorem Matches.stop (same : Matches l c) :
    ∃ answers c', ConnectorLoop.machine.Run c answers c' ∧ Matches (Connector.stop l) c' := by
  refine ⟨[.storeStop, .queue 0], (c.setConnect false).queueInLoop .stopInLoop, ?_, ?_⟩
  · refine .next trivial rfl (.one ?_ ?_)
    · simp [ConnectorLoop.machine, ConnectorLoop.Enabled, ConnectorLoop.setConnect]
    · simp [ConnectorLoop.machine, ConnectorLoop.step, ConnectorLoop.setConnect, same.calls]
  · have flagged : Matches { l with connector := { l.connector with connectFlag := false } }
        (c.setConnect false) :=
      { same with connector := by simp [ConnectorLoop.setConnect, same.connector] }
    exact flagged.queueInLoop rfl

/-- `~Connector`, which the other model leaves out, changes nothing. -/
theorem release_ok {l' : ClientLoop} (success : Connector.release l = .ok l') : l' = l := by
  unfold Connector.release at success
  split at success
  · obtain ⟨_, _, returned⟩ := bind_eq_ok success
    cases returned
    rfl
  · cases success
    rfl

/-- A functor of the connector alone runs as the client's does. -/
theorem functor_once {l' : ClientLoop} {functor : ClientFunctor} {rest : List ClientFunctor}
    {own : ConnectorFunctor} {run : ClientLoop → Except Abort ClientLoop} (same : Matches l c)
    (queue : l.pending = functor :: rest) (shared : asFunctor functor = some own)
    (alike : ∀ m d, Matches m d → Alike Matches (run m) (d.runFunctor ⟨none, none⟩ own))
    (ran : run { l with pending := rest } = .ok l') :
    ∃ answers c', ConnectorLoop.machine.Run c answers c' ∧ Matches l' c' := by
  have pending : c.pending = own :: rest.filterMap asFunctor := by
    rw [same.pending, queue, List.filterMap_cons_some shared]
  have running : c.step (.functor ⟨none, none⟩) =
      ConnectorLoop.runFunctor { c with pending := rest.filterMap asFunctor } ⟨none, none⟩ own := by
    simp only [ConnectorLoop.step, pending]
  refine Matches.once (a := .functor ⟨none, none⟩) ?_ ?_ ran
  · simp [ConnectorLoop.Enabled, pending]
  · rw [running]
    exact alike _ _ { same with pending := rfl }

/-- A functor of the client is a functor of the connector, or none. -/
theorem functor_matched {l' : ClientLoop} (same : Matches l c)
    (stepped : l.step .functor = .ok l') :
    ∃ answers c', ConnectorLoop.machine.Run c answers c' ∧ Matches l' c' := by
  cases queue : l.pending with
  | nil =>
    simp only [ClientLoop.step, queue] at stepped
    cases stepped
    exact same.aside
  | cons functor rest =>
    simp only [ClientLoop.step, queue] at stepped
    cases functor with
    | connectDestroyed =>
      cases stepped
      exact Matches.aside { same with pending := by rw [same.pending, queue]; rfl }
    | stopInLoop =>
      simp only [ClientLoop.runFunctor] at stepped
      split at stepped
      · cases stepped
      · exact functor_once same queue rfl (fun _ _ => stopInLoop_alike) stepped
    | resetChannel =>
      simp only [ClientLoop.runFunctor] at stepped
      split at stepped
      · cases stepped
      · exact functor_once same queue rfl (fun _ _ => resetChannel_alike) stepped

/-- Every step of the client is a step of the connector, or none. -/
theorem step_matched {l' : ClientLoop} {a : ClientLoop.Act} (same : Matches l c)
    (enabled : l.Enabled a) (stepped : l.step a = .ok l') :
    ∃ answers c', ConnectorLoop.machine.Run c answers c' ∧ Matches l' c' := by
  cases a with
  | connect answers =>
    simp only [ClientLoop.step, TcpClient.connect] at stepped
    split at stepped
    · cases stepped
    · have flagged : Matches
          { l with
            client := { l.client with connectFlag := true }
            connector := { l.connector with connectFlag := true } } (c.setConnect true) :=
        { same with connector := by simp [ConnectorLoop.setConnect, same.connector] }
      exact Matches.once (a := .start answers) trivial (startInLoop_alike flagged answers) stepped
  | disconnect | enableRetry =>
    cases stepped
    exact Matches.aside { same with }
  | stop =>
    simp only [ClientLoop.step, TcpClient.stop] at stepped
    split at stepped
    · cases stepped
    · cases stepped
      exact Matches.stop { same with }
  | timer index answers =>
    obtain ⟨m, started, released⟩ := bind_eq_ok stepped
    cases release_ok released
    have fired : Matches { l with timers := l.timers.eraseIdx index }
        { c with timers := c.timers.eraseIdx index } :=
      { same with timers := by rw [same.timers] }
    refine Matches.once (a := .timer index answers) ?_ (startInLoop_alike fired answers) started
    have fires : index < l.timers.length := enabled
    rwa [← same.timers] at fires
  | event revents soError selfConnect =>
    refine Matches.once (a := .event revents soError selfConnect) ?_
      (handleEvent_alike same revents soError selfConnect) stepped
    rw [ConnectorLoop.Enabled, ConnectorLoop.channelWatched, same.connector]
    exact enabled
  | functor => exact functor_matched same stepped
  | close =>
    have closed : Matches
        (Connector.queueInLoop { l with client := { l.client with connection := none } }
          .connectDestroyed) c :=
      { same with pending := by simp [Connector.queueInLoop, asFunctor, same.pending] }
    simp only [ClientLoop.step, TcpClient.removeConnection] at stepped
    split at stepped
    · split at stepped
      · cases stepped
      · cases release_ok stepped
        exact Matches.aside { closed with }
    · cases stepped
      exact Matches.aside closed

/-! ## Runs -/

theorem new_matches : Matches .new .new where
  connector := rfl
  pending := rfl
  calls := rfl
  timers := rfl
  sockets := rfl
  ledger := rfl

/-- Every run of the client is matched by a run of the connector alone, with the same connector,
timers and sockets. -/
theorem client_matched {actions : List ClientLoop.Act} (run : ClientLoop.machine.Run .new actions l) :
    ∃ answers c, ConnectorLoop.machine.Run .new answers c ∧ Matches l c :=
  run.simulated (fun _ _ _ _ same enabled stepped => step_matched same enabled stepped) new_matches

end Starry.Guarantees.ConnectorAgreement
